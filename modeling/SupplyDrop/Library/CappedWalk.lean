import Mathlib

namespace SupplyDrop.Library

/-- Where a look for the next element that is not skipped comes to. A capped one stops in a run of
skipped elements. -/
inductive Look (α : Type) where
  | found (a : α) (rest : List α)
  | capped (rest : List α)
  | ended

/-- At most so many elements are looked at. -/
def look {α : Type} (skip : α → Bool) : Nat → List α → Look α
  | 0, rest => .capped rest
  | _ + 1, [] => .ended
  | n + 1, a :: rest => if skip a then look skip n rest else .found a rest

/-- What one look comes to for whoever asks for it. -/
inductive Seen (α : Type) where
  | shown (a : α)
  | more
  | ended

/-- Looks that are repeated until one of them comes to the end. -/
inductive Looks {α : Type} (skip : α → Bool) (cap : Nat) : List α → List (Seen α) → Prop where
  | ended {xs : List α} : look skip cap xs = .ended → Looks skip cap xs [.ended]
  | capped {xs rest : List α} {seen : List (Seen α)} : look skip cap xs = .capped rest →
      Looks skip cap rest seen → Looks skip cap xs (.more :: seen)
  | found {xs rest : List α} {a : α} {seen : List (Seen α)} : look skip cap xs = .found a rest →
      Looks skip cap rest seen → Looks skip cap xs (.shown a :: seen)

def Seen.shown? {α : Type} : Seen α → Option α
  | .shown a => some a
  | _ => none

section Look
variable {α : Type} {skip : α → Bool} {n : Nat} {xs rest : List α} {a : α}

theorem look_found (h : look skip n xs = .found a rest) :
    xs.filter (!skip ·) = a :: rest.filter (!skip ·) ∧ rest.length < xs.length := by
  induction n generalizing xs with
  | zero => cases h
  | succ n ih =>
      cases xs with
      | nil => cases h
      | cons x xs =>
          unfold look at h
          split at h
          · next skipped =>
            obtain ⟨same, shorter⟩ := ih h
            exact ⟨by simpa [skipped] using same, shorter.trans (Nat.lt_succ_self _)⟩
          · next kept =>
            cases h
            exact ⟨by simp [kept], Nat.lt_succ_self _⟩

theorem look_capped (h : look skip n xs = .capped rest) :
    xs.filter (!skip ·) = rest.filter (!skip ·) ∧ xs.length = rest.length + n := by
  induction n generalizing xs with
  | zero =>
      cases h
      exact ⟨rfl, rfl⟩
  | succ n ih =>
      cases xs with
      | nil => cases h
      | cons x xs =>
          unfold look at h
          split at h
          · next skipped =>
            obtain ⟨same, longer⟩ := ih h
            exact ⟨by simpa [skipped] using same, by simp [longer, Nat.add_assoc]⟩
          · cases h

theorem look_ended (h : look skip n xs = .ended) : xs.filter (!skip ·) = [] := by
  induction n generalizing xs with
  | zero => cases h
  | succ n ih =>
      cases xs with
      | nil => rfl
      | cons x xs =>
          unfold look at h
          split at h
          · next skipped => simpa [skipped] using ih h
          · cases h

end Look

namespace Looks
variable {α : Type} {skip : α → Bool} {cap : Nat} {xs : List α} {seen : List (Seen α)}

/-- Looks that look at anything come to an end. -/
theorem exist (skip : α → Bool) (positive : 0 < cap) (xs : List α) :
    ∃ seen, Looks skip cap xs seen := by
  induction size : xs.length using Nat.strong_induction_on generalizing xs with
  | _ n ih =>
      cases looked : look skip cap xs with
      | ended => exact ⟨_, .ended looked⟩
      | capped rest =>
          have longer := (look_capped looked).2
          obtain ⟨seen, looks⟩ := ih rest.length (by omega) rest rfl
          exact ⟨_, .capped looked looks⟩
      | found a rest =>
          have shorter := (look_found looked).2
          obtain ⟨seen, looks⟩ := ih rest.length (by omega) rest rfl
          exact ⟨_, .found looked looks⟩

/-- They show what is not skipped, once each and in order. -/
theorem exact (looks : Looks skip cap xs seen) :
    seen.filterMap Seen.shown? = xs.filter (!skip ·) := by
  induction looks with
  | ended looked =>
      rw [look_ended looked]
      rfl
  | capped looked _ ih =>
      rw [(look_capped looked).1, ← ih]
      rfl
  | found looked _ ih =>
      rw [(look_found looked).1, ← ih]
      rfl

/-- The last of them comes to the end, and no other. -/
theorem last (looks : Looks skip cap xs seen) : ∃ init, seen = init ++ [.ended] ∧ .ended ∉ init := by
  induction looks with
  | ended looked => exact ⟨[], rfl, List.not_mem_nil⟩
  | capped looked _ ih =>
      obtain ⟨init, rfl, others⟩ := ih
      exact ⟨.more :: init, rfl, by simpa using others⟩
  | found looked _ ih =>
      obtain ⟨init, rfl, others⟩ := ih
      exact ⟨.shown _ :: init, rfl, by simpa using others⟩

end Looks

/-! ## Lists in the order of a relation -/

/-- Behind the first of those that `p` holds of are the rest of them. -/
theorem filter_behind_first {α : Type} {r : α → α → Prop} [DecidableRel r] {xs rest : List α}
    {a : α} {p : α → Bool} (sorted : xs.Pairwise r) (irrefl : ¬ r a a)
    (upward : ∀ x, r a x → p x) (first : xs.filter p = a :: rest) : xs.filter (r a ·) = rest := by
  have later : ∀ x ∈ rest, r a x := by
    have kept := sorted.filter p
    rw [first] at kept
    exact (List.pairwise_cons.mp kept).1
  calc xs.filter (r a ·) = (xs.filter p).filter (r a ·) := by
        rw [List.filter_filter]
        apply List.filter_congr
        intro x _
        by_cases h : r a x
        · simp [h, upward x h]
        · simp [h]
    _ = rest := by
        rw [first, List.filter_cons_of_neg (by simpa using irrefl)]
        exact List.filter_eq_self.mpr fun x mem => decide_eq_true (later x mem)

/-- What is behind a member comes next below the first that is behind it. -/
theorem back_to_member {α : Type} {key : α → Int} {xs later : List α} {a b : α}
    (sorted : xs.Pairwise fun x y => key x < key y) (mem : a ∈ xs)
    (next : xs.filter (key a < key ·) = b :: later) :
    ∃ earlier, (xs.filter (key · < key b)).reverse = a :: earlier := by
  obtain ⟨front, back, rfl⟩ := List.append_of_mem mem
  obtain ⟨-, behind, across⟩ := List.pairwise_append.mp sorted
  obtain ⟨above, ordered⟩ := List.pairwise_cons.mp behind
  have below (x) (hx : x ∈ front) : key x < key a := across x hx a List.mem_cons_self
  have back_ : back = b :: later := by
    have none : front.filter (key a < key ·) = [] := by
      apply List.filter_eq_nil_iff.mpr
      intro x hx
      simpa using (below x hx).le
    have all : back.filter (key a < key ·) = back :=
      List.filter_eq_self.mpr fun x hx => decide_eq_true (above x hx)
    simpa [none, all] using next
  subst back_
  have first : key a < key b := above b List.mem_cons_self
  have all : front.filter (key · < key b) = front :=
    List.filter_eq_self.mpr fun x hx => decide_eq_true ((below x hx).trans first)
  have none : later.filter (key · < key b) = [] := by
    apply List.filter_eq_nil_iff.mpr
    intro x hx
    simpa using ((List.pairwise_cons.mp ordered).1 x hx).le
  exact ⟨front.reverse, by simp [all, none, first]⟩

end SupplyDrop.Library
