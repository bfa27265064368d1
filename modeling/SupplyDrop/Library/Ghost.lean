import Mathlib
import SupplyDrop.Library.Program

namespace SupplyDrop.Library.Program
variable {σ τ ε α β γ : Type}

/-! ## Ghost state -/

/-- On the part of the state that `view` shows `m` does what `p` does, and its result is the same.
The rest of the state is there for proofs only. -/
def Erases (view : τ → σ) (m : Program τ ε α) (p : Program σ ε α) : Prop :=
  ∀ t, (m t).1 = (p (view t)).1 ∧ view (m t).2 = (p (view t)).2

namespace Erases
variable {view : τ → σ}

theorem ret (a : α) : Erases view (pure a : Program τ ε α) (pure a) := fun _ => ⟨rfl, rfl⟩

theorem zoom {put : τ → σ → τ} (lawful : ∀ t s, view (put t s) = s) (p : Program σ ε α) :
    Erases view (Program.zoom view put p) p :=
  fun t => ⟨rfl, lawful t _⟩

theorem bind {m : Program τ ε α} {p : Program σ ε α} {f : α → Program τ ε β}
    {g : α → Program σ ε β} (first : Erases view m p) (rest : ∀ a, Erases view (f a) (g a)) :
    Erases view (m >>= f) (p >>= g) := by
  intro t
  have same := first t
  rw [bind_apply, bind_apply]
  generalize m t = after at same ⊢
  generalize p (view t) = after' at same ⊢
  obtain ⟨r, t'⟩ := after
  obtain ⟨r', s'⟩ := after'
  obtain ⟨rfl, rfl⟩ : r = r' ∧ view t' = s' := same
  cases r with
  | ok a => exact rest a t'
  | error e => exact ⟨rfl, rfl⟩

theorem note {ghost : τ → τ} (unseen : ∀ t, view (ghost t) = view t) {m : Program τ ε α}
    {p : Program σ ε α} (rest : Erases view m p) :
    Erases view (Program.modify ghost >>= fun _ => m) p := by
  intro t
  rw [bind_apply, modify_apply, ← unseen t]
  exact rest (ghost t)

theorem look {f : τ → γ} {m : γ → Program τ ε α} {p : Program σ ε α}
    (rest : ∀ c, Erases view (m c) p) : Erases view (Program.gets f >>= m) p :=
  fun t => rest (f t) t

end Erases

end SupplyDrop.Library.Program
