import Mathlib
import SupplyDrop.Library.Program

namespace SupplyDrop.Library

/-- What programs do in the course of a run and what they return, as rules that follow the way a
program is built. A fact proved from the rules alone holds of every reading of `ensures`. -/
structure Discipline (σ ε : Type) where
  ensures : {α : Type} → Program σ ε α → (α → Prop) → Prop
  ret : ∀ {α : Type} {a : α} {Q : α → Prop}, Q a → ensures (pure a) Q
  fail : ∀ {α : Type} {e : ε} {Q : α → Prop}, ensures (Program.fail e) Q
  bind : ∀ {α β : Type} {m : Program σ ε α} {f : α → Program σ ε β} {Q : α → Prop} {R : β → Prop},
    ensures m Q → (∀ a, Q a → ensures (f a) R) → ensures (m >>= f) R
  attempt : ∀ {α : Type} {m : Program σ ε α} {Q : α → Prop}, ensures m Q →
    ensures (Program.attempt m : Program σ ε (Except ε α)) fun r => ∀ a, r = .ok a → Q a

namespace Discipline
variable {σ ε α β : Type} (D : Discipline σ ε)

def holds (m : Program σ ε α) : Prop := D.ensures m fun _ => True

theorem conseq {m : Program σ ε α} {Q R : α → Prop} (h : D.ensures m Q) (weaker : ∀ a, Q a → R a) :
    D.ensures m R := by
  rw [← bind_pure m]
  exact D.bind h fun a q => D.ret (weaker a q)

theorem ensures_holds {m : Program σ ε α} {Q : α → Prop} (h : D.ensures m Q) : D.holds m :=
  D.conseq h fun _ _ => trivial

theorem seq {m : Program σ ε α} {f : α → Program σ ε β} {R : β → Prop} (h : D.holds m)
    (rest : ∀ a, D.ensures (f a) R) : D.ensures (m >>= f) R :=
  D.bind h fun a _ => rest a

theorem ite {p : Prop} [Decidable p] {m m' : Program σ ε α} {Q : α → Prop} (yes : p → D.ensures m Q)
    (no : ¬ p → D.ensures m' Q) : D.ensures (if p then m else m') Q := by
  by_cases h : p
  · rw [if_pos h]
    exact yes h
  · rw [if_neg h]
    exact no h

theorem forM {xs : List α} {f : α → Program σ ε PUnit} (each : ∀ a, D.holds (f a)) :
    D.holds (xs.forM f) := by
  induction xs with
  | nil => exact D.ret trivial
  | cons x xs ih => exact D.seq (each x) fun _ => ih

theorem mapM {xs : List α} {f : α → Program σ ε β} (each : ∀ a, D.holds (f a)) :
    D.holds (xs.mapM f) := by
  induction xs with
  | nil => exact D.ret trivial
  | cons x xs ih =>
      rw [List.mapM_cons]
      exact D.seq (each x) fun _ => D.seq ih fun _ => D.ret trivial

/-! ## Disciplines -/

/-- Programs that keep `I`. -/
def keeping (I : σ → Prop) : Discipline σ ε where
  ensures m Q := Program.Ensures I I m fun a s => I s ∧ Q a
  ret q := .ret fun _ holds => ⟨holds, holds, q⟩
  fail := .fail fun _ holds => holds
  bind first rest := .bind first fun a => .given (rest a)
  attempt h := (Program.Ensures.attempt h).conseq (fun _ holds => holds)
    fun _ _ after => ⟨after.1, fun a returned => (after.2 a returned).2⟩

theorem keeping_iff {I : σ → Prop} {m : Program σ ε α} :
    (keeping I).holds m ↔ Program.Keeps I m := by
  constructor
  · intro h s holds
    exact (h s holds).1
  · intro h s holds
    exact ⟨h s holds, fun _ _ => ⟨h s holds, trivial⟩⟩

/-- Programs that move along `R`, however they end. -/
def along (R : σ → σ → Prop) (refl : ∀ s, R s s) (trans : ∀ s t u, R s t → R t u → R s u) :
    Discipline σ ε where
  ensures m Q := ∀ s, R s (m s).2 ∧ ∀ a, (m s).1 = .ok a → Q a
  ret q s := ⟨refl s, fun _ eq => by cases eq; exact q⟩
  fail s := ⟨refl s, fun _ eq => by cases eq⟩
  bind := by
    intro α β m f Q S first rest s
    obtain ⟨moved, returned⟩ := first s
    rw [Program.bind_apply]
    rcases ran : m s with ⟨r, t⟩
    rw [ran] at moved returned
    cases r with
    | ok a =>
        obtain ⟨later, q⟩ := rest a (returned a rfl) t
        exact ⟨trans s t _ moved later, q⟩
    | error e => exact ⟨moved, fun _ eq => by cases eq⟩
  attempt h s := by
    refine ⟨(h s).1, fun r eq a same => ?_⟩
    cases eq
    exact (h s).2 a same

/-- Programs by what they return, whatever they do. -/
def returning : Discipline σ ε where
  ensures m Q := ∀ s a, (m s).1 = .ok a → Q a
  ret q _ _ eq := by
    cases eq
    exact q
  fail _ _ eq := by cases eq
  bind first rest s b eq := by
    obtain ⟨a, t, ran, last⟩ := Program.bind_eq_ok (Prod.ext eq rfl)
    exact rest a (first s a (congrArg Prod.fst ran)) t b (congrArg Prod.fst last)
  attempt h s r eq a same := by
    cases eq
    exact h s a same

/-- Both programs have a result, and `S` relates them, or both end with the same error. -/
inductive Both (S : α → β → Prop) : Except ε α → Except ε β → Prop where
  | ok {a : α} {b : β} : S a b → Both S (.ok a) (.ok b)
  | error (e : ε) : Both S (.error e) (.error e)

theorem Both.mono {S T : α → β → Prop} {r : Except ε α} {r' : Except ε β} (h : Both S r r')
    (weaker : ∀ a b, S a b → T a b) : Both T r r' := by
  cases h with
  | ok same => exact .ok (weaker _ _ same)
  | error e => exact .error e

/-- Two programs that end alike from states that `R` relates, in states that it relates. -/
def Alike (R : σ → σ → Prop) (S : α → β → Prop) (m : Program σ ε α) (m' : Program σ ε β) : Prop :=
  ∀ s s', R s s' → R (m s).2 (m' s').2 ∧ Both S (m s).1 (m' s').1

namespace Alike
variable {α' β' : Type} {R : σ → σ → Prop} {S T : α → β → Prop}

theorem ret {a : α} {b : β} (h : S a b) :
    Alike R S (pure a : Program σ ε α) (pure b : Program σ ε β) :=
  fun _ _ related => ⟨related, .ok h⟩

theorem fail (e : ε) : Alike R S (Program.fail e) (Program.fail e) :=
  fun _ _ related => ⟨related, .error e⟩

theorem bind {m : Program σ ε α} {m' : Program σ ε β} {f : α → Program σ ε α'}
    {f' : β → Program σ ε β'} {U : α' → β' → Prop} (first : Alike R S m m')
    (rest : ∀ a b, S a b → Alike R U (f a) (f' b)) : Alike R U (m >>= f) (m' >>= f') := by
  intro s s' related
  obtain ⟨after, results⟩ := first s s' related
  rcases ran : m s with ⟨r, t⟩
  rcases ran' : m' s' with ⟨r', t'⟩
  rw [ran, ran'] at after results
  cases results with
  | ok same =>
      rw [Program.bind_ok ran, Program.bind_ok ran']
      exact rest _ _ same t t' after
  | error e =>
      rw [Program.bind_error ran, Program.bind_error ran']
      exact ⟨after, .error e⟩

theorem conseq {m : Program σ ε α} {m' : Program σ ε β} (h : Alike R S m m')
    (weaker : ∀ a b, S a b → T a b) : Alike R T m m' := by
  intro s s' related
  obtain ⟨after, results⟩ := h s s' related
  exact ⟨after, results.mono weaker⟩

theorem attempt {m : Program σ ε α} {m' : Program σ ε β} (h : Alike R S m m') :
    Alike R (Both S) (Program.attempt m : Program σ ε (Except ε α)) (Program.attempt m') :=
  fun s s' related => ⟨(h s s' related).1, .ok (h s s' related).2⟩

end Alike

/-- Programs that go the same way from states that `R` relates. -/
def pairing (R : σ → σ → Prop) : Discipline σ ε where
  ensures m Q := Alike R (fun a b => b = a ∧ Q a) m m
  ret q := .ret ⟨rfl, q⟩
  fail := .fail _
  bind first rest := by
    apply first.bind
    rintro a b ⟨same, q⟩
    rw [same]
    exact rest a q
  attempt h := by
    apply h.attempt.conseq
    intro r r' same
    cases same with
    | ok same =>
        refine ⟨congrArg Except.ok same.1, fun c eq => ?_⟩
        cases eq
        exact same.2
    | error e => exact ⟨rfl, fun _ eq => by cases eq⟩

end Discipline
end SupplyDrop.Library
