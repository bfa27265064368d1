import Mathlib

namespace SupplyDrop.Library

/-- A computation over a state `σ` that may fail. A failure keeps the state reached so far, as a
Rust function returning `Err` does after its first side effects. -/
def Program (σ ε α : Type) : Type := σ → Except ε α × σ

namespace Program
variable {σ τ ε ε' α β : Type}

protected def pure (a : α) : Program σ ε α := fun s => (.ok a, s)

protected def bind (m : Program σ ε α) (f : α → Program σ ε β) : Program σ ε β := fun s =>
  match m s with
  | (.ok a, s') => f a s'
  | (.error e, s') => (.error e, s')

instance : Monad (Program σ ε) where
  pure := Program.pure
  bind := Program.bind

def fail (e : ε) : Program σ ε α := fun s => (.error e, s)

def get : Program σ ε σ := fun s => (.ok s, s)

def gets (f : σ → α) : Program σ ε α := fun s => (.ok (f s), s)

def modify (f : σ → σ) : Program σ ε Unit := fun s => (.ok (), f s)

def attempt (m : Program σ ε α) : Program σ ε' (Except ε α) := fun s =>
  (.ok (m s).1, (m s).2)

def mapError (f : ε → ε') (m : Program σ ε α) : Program σ ε' α := fun s =>
  ((m s).1.mapError f, (m s).2)

def zoom (view : τ → σ) (put : τ → σ → τ) (m : Program σ ε α) : Program τ ε α := fun t =>
  ((m (view t)).1, put t (m (view t)).2)

/-- Run `m` as one unit: when it fails the state is put back by `undo`. -/
def atomically (undo : σ → σ → σ) (m : Program σ ε α) : Program σ ε α := fun s =>
  match m s with
  | (.ok a, s') => (.ok a, s')
  | (.error e, s') => (.error e, undo s s')

@[simp] theorem pure_apply (a : α) (s : σ) : (pure a : Program σ ε α) s = (.ok a, s) := rfl

@[simp] theorem fail_apply (e : ε) (s : σ) : (fail e : Program σ ε α) s = (.error e, s) := rfl

@[simp] theorem get_apply (s : σ) : (get : Program σ ε σ) s = (.ok s, s) := rfl

@[simp] theorem gets_apply (f : σ → α) (s : σ) :
    (gets f : Program σ ε α) s = (.ok (f s), s) := rfl

@[simp] theorem modify_apply (f : σ → σ) (s : σ) :
    (modify f : Program σ ε Unit) s = (.ok (), f s) := rfl

@[simp] theorem attempt_apply (m : Program σ ε α) (s : σ) :
    (attempt m : Program σ ε' _) s = (.ok (m s).1, (m s).2) := rfl

@[simp] theorem mapError_apply (f : ε → ε') (m : Program σ ε α) (s : σ) :
    mapError f m s = ((m s).1.mapError f, (m s).2) := rfl

@[simp] theorem zoom_apply (view : τ → σ) (put : τ → σ → τ) (m : Program σ ε α) (t : τ) :
    zoom view put m t = ((m (view t)).1, put t (m (view t)).2) := rfl

theorem bind_apply (m : Program σ ε α) (f : α → Program σ ε β) (s : σ) :
    (m >>= f) s = match m s with
      | (.ok a, s') => f a s'
      | (.error e, s') => (.error e, s') := rfl

theorem bind_ok {m : Program σ ε α} {f : α → Program σ ε β} {s s' : σ} {a : α}
    (h : m s = (.ok a, s')) : (m >>= f) s = f a s' := by
  rw [bind_apply, h]

theorem bind_error {m : Program σ ε α} {f : α → Program σ ε β} {s s' : σ} {e : ε}
    (h : m s = (.error e, s')) : (m >>= f) s = (.error e, s') := by
  rw [bind_apply, h]

theorem bind_eq_ok {m : Program σ ε α} {f : α → Program σ ε β} {s s'' : σ} {b : β}
    (h : (m >>= f) s = (.ok b, s'')) :
    ∃ a s', m s = (.ok a, s') ∧ f a s' = (.ok b, s'') := by
  rw [bind_apply] at h
  rcases hm : m s with ⟨r, s'⟩
  rw [hm] at h
  cases r with
  | ok a => exact ⟨a, s', rfl, h⟩
  | error e => cases h

theorem gets_ok {f : σ → α} {s s' : σ} {a : α}
    (h : (gets f : Program σ ε α) s = (.ok a, s')) : a = f s ∧ s' = s := by
  cases h
  exact ⟨rfl, rfl⟩

private theorem map_id (m : Program σ ε α) : id <$> m = m := by
  funext s
  show (m >>= pure) s = m s
  rw [bind_apply]
  rcases m s with ⟨r, s'⟩
  cases r <;> rfl

private theorem bind_assoc {γ : Type} (m : Program σ ε α) (f : α → Program σ ε β)
    (g : β → Program σ ε γ) : m >>= f >>= g = m >>= fun a => f a >>= g := by
  funext s
  simp only [bind_apply]
  rcases m s with ⟨r, s'⟩
  cases r <;> rfl

instance : LawfulMonad (Program σ ε) :=
  LawfulMonad.mk' _ map_id (fun _ _ => rfl) bind_assoc

theorem atomically_error {undo : σ → σ → σ} {m : Program σ ε α} {s : σ} {e : ε}
    (h : (atomically undo m s).1 = .error e) :
    (atomically undo m s).2 = undo s (m s).2 := by
  unfold atomically at h ⊢
  rcases hm : m s with ⟨r, s'⟩
  rw [hm] at h
  cases r with
  | ok a => cases h
  | error e => rfl

theorem atomically_ok {undo : σ → σ → σ} {m : Program σ ε α} {s : σ} {a : α}
    (h : (atomically undo m s).1 = .ok a) : atomically undo m s = m s := by
  unfold atomically at h ⊢
  rcases hm : m s with ⟨r, s'⟩
  rw [hm] at h
  cases r with
  | ok a => rfl
  | error e => cases h

/-! ## Pre- and postconditions -/

def Triple (P : σ → Prop) (m : Program σ ε α) (Q : Except ε α → σ → Prop) : Prop :=
  ∀ s, P s → Q (m s).1 (m s).2

namespace Triple
variable {P P' : σ → Prop} {Q Q' : Except ε α → σ → Prop}

theorem conseq {m : Program σ ε α} (h : Triple P' m Q') (pre : ∀ s, P s → P' s)
    (post : ∀ r s, Q' r s → Q r s) : Triple P m Q :=
  fun s hs => post _ _ (h s (pre s hs))

theorem bind {m : Program σ ε α} {f : α → Program σ ε β} {R : Except ε α → σ → Prop}
    {Q : Except ε β → σ → Prop} (hm : Triple P m R) (hf : ∀ a, Triple (R (.ok a)) (f a) Q)
    (he : ∀ e s, R (.error e) s → Q (.error e) s) : Triple P (m >>= f) Q := by
  intro s hs
  have first := hm s hs
  rw [bind_apply]
  rcases h : m s with ⟨r, s'⟩
  rw [h] at first
  cases r with
  | ok a => exact hf a s' first
  | error e => exact he e s' first

end Triple

def Keeps (I : σ → Prop) (m : Program σ ε α) : Prop := Triple I m fun _ => I

namespace Keeps
variable {I : σ → Prop}

theorem ret (a : α) : Keeps I (pure a : Program σ ε α) := fun _ h => h

theorem fail (e : ε) : Keeps I (Program.fail e : Program σ ε α) := fun _ h => h

theorem gets (f : σ → α) : Keeps I (Program.gets f : Program σ ε α) := fun _ h => h

theorem modify {f : σ → σ} (h : ∀ s, I s → I (f s)) :
    Keeps I (Program.modify f : Program σ ε Unit) := h

theorem bind {m : Program σ ε α} {f : α → Program σ ε β} (hm : Keeps I m)
    (hf : ∀ a, Keeps I (f a)) : Keeps I (m >>= f) :=
  Triple.bind hm hf fun _ _ h => h

theorem attempt {m : Program σ ε α} (h : Keeps I m) :
    Keeps I (Program.attempt m : Program σ ε' _) := h

end Keeps

/-- From `P`, `I` holds however the program ends, and `R` of its result when it returns one. -/
def Ensures (I P : σ → Prop) (m : Program σ ε α) (R : α → σ → Prop) : Prop :=
  Triple P m fun r s => I s ∧ ∀ a, r = .ok a → R a s

namespace Ensures
variable {I P P' : σ → Prop} {R R' : α → σ → Prop}

theorem ret {a : α} (h : ∀ s, P s → I s ∧ R a s) : Ensures I P (pure a : Program σ ε α) R := by
  intro s hs
  refine ⟨(h s hs).1, fun b eq => ?_⟩
  cases eq
  exact (h s hs).2

theorem fail {e : ε} (h : ∀ s, P s → I s) : Ensures I P (Program.fail e : Program σ ε α) R :=
  fun s hs => ⟨h s hs, fun _ eq => by cases eq⟩

theorem gets {f : σ → α} (h : ∀ s, P s → I s ∧ R (f s) s) :
    Ensures I P (Program.gets f : Program σ ε α) R := by
  intro s hs
  refine ⟨(h s hs).1, fun b eq => ?_⟩
  cases eq
  exact (h s hs).2

theorem modify {f : σ → σ} {R : Unit → σ → Prop} (h : ∀ s, P s → I (f s) ∧ R () (f s)) :
    Ensures I P (Program.modify f : Program σ ε Unit) R :=
  fun s hs => ⟨(h s hs).1, fun _ _ => (h s hs).2⟩

theorem bind {m : Program σ ε α} {f : α → Program σ ε β} {R : β → σ → Prop}
    {Q : α → σ → Prop} (hm : Ensures I P m Q) (hf : ∀ a, Ensures I (Q a) (f a) R) :
    Ensures I P (m >>= f) R := by
  intro s hs
  have first := hm s hs
  rw [bind_apply]
  rcases h : m s with ⟨r, s'⟩
  rw [h] at first
  cases r with
  | ok a => exact hf a s' (first.2 a rfl)
  | error e => exact ⟨first.1, fun _ eq => by cases eq⟩

theorem given {p : Prop} {m : Program σ ε α} (h : p → Ensures I P m R) :
    Ensures I (fun s => P s ∧ p) m R :=
  fun s hs => h hs.2 s hs.1

theorem conseq {m : Program σ ε α} (h : Ensures I P' m R') (pre : ∀ s, P s → P' s)
    (post : ∀ a s, R' a s → R a s) : Ensures I P m R :=
  fun s hs => ⟨(h s (pre s hs)).1, fun a eq => post a _ ((h s (pre s hs)).2 a eq)⟩

theorem weaken {J : σ → Prop} {m : Program σ ε α} (h : Ensures J P m R) (inv : ∀ s, J s → I s) :
    Ensures I P m R :=
  fun s hs => ⟨inv _ (h s hs).1, (h s hs).2⟩

theorem ofKeeps {m : Program σ ε α} (h : Keeps I m) : Ensures I I m fun _ => I :=
  fun s hs => ⟨h s hs, fun _ _ => h s hs⟩

theorem attempt {m : Program σ ε α} (h : Ensures I P m R) :
    Ensures I P (Program.attempt m : Program σ ε' _)
      fun r s => I s ∧ ∀ a, r = .ok a → R a s := by
  intro s hs
  refine ⟨(h s hs).1, fun r eq => ?_⟩
  cases eq
  exact h s hs

end Ensures

end Program

/-! ## Results without a state -/

theorem except_bind_eq_ok {ε α β : Type} {x : Except ε α} {f : α → Except ε β} {b : β} :
    (x >>= f) = .ok b ↔ ∃ a, x = .ok a ∧ f a = .ok b := by
  cases x with
  | error e => exact ⟨fun h => (nomatch h), fun ⟨_, h, _⟩ => (nomatch h)⟩
  | ok a => exact ⟨fun h => ⟨a, rfl, h⟩, fun ⟨_, h, rest⟩ => by cases h; exact rest⟩

end SupplyDrop.Library
