import Mathlib
import SupplyDrop.Library.Program

/-! # Reading frames off a stream

A reader is a program over the input that is still to come. -/

namespace SupplyDrop.Library.Framing
variable {σ ε α β : Type}

/-- Reading again and again gives these values, each with what was left of the input after it, and
then fails. -/
inductive Reads (read : Program σ ε α) : σ → List (α × σ) → ε → Prop
  | stop {s s' : σ} {e : ε} (failed : read s = (.error e, s')) : Reads read s [] e
  | next {s s' : σ} {a : α} {rest : List (α × σ)} {e : ε} (ran : read s = (.ok a, s'))
      (on : Reads read s' rest e) : Reads read s ((a, s') :: rest) e

theorem Reads.head {read : Program σ ε α} {s s' : σ} {a : α} {rest : List (α × σ)} {e : ε}
    (reads : Reads read s ((a, s') :: rest) e) : read s = (.ok a, s') ∧ Reads read s' rest e := by
  cases reads with
  | next ran on => exact ⟨ran, on⟩

/-- What a reader does with the values of another one, the reads being the same. -/
theorem Reads.bind {read : Program σ ε α} {f : α → Program σ ε β} {g : α → β} {s : σ}
    {items : List (α × σ)} {e : ε} (reads : Reads read s items e)
    (keeps : ∀ item ∈ items, ∀ s, f item.1 s = (.ok (g item.1), s)) :
    Reads (read >>= f) s (items.map fun item => (g item.1, item.2)) e := by
  induction reads with
  | stop failed => exact .stop (Program.bind_error failed)
  | @next s s' a rest e ran on ih =>
      apply Reads.next
      · rw [Program.bind_ok ran, keeps (a, s') List.mem_cons_self]
      · exact ih fun item mem => keeps item (List.mem_cons_of_mem _ mem)

/-! ## Pieces in a row -/

section Rows
variable {ι : Type} (bytes : ι → List α) (value : ι → β)

def wire : List ι → List α → List α
  | [], tail => tail
  | i :: items, tail => bytes i ++ wire items tail

/-- The values in order, each with what comes in behind its piece. -/
def marks : List ι → List α → List (β × List α)
  | [], _ => []
  | i :: items, tail => (value i, wire bytes items tail) :: marks items tail

variable {bytes value}

/-- The pieces are read in order if each of them is read from whatever comes behind it. -/
theorem reads_wire_iff {read : Program (List α) ε β} {good : ι → Prop} {tail left : List α} {e : ε}
    (piece : ∀ i rest, read (bytes i ++ rest) = (.ok (value i), rest) ↔ good i)
    (last : read tail = (.error e, left)) (items : List ι) :
    Reads read (wire bytes items tail) (marks bytes value items tail) e ↔ ∀ i ∈ items, good i := by
  induction items with
  | nil => exact iff_of_true (.stop last) fun _ mem => absurd mem List.not_mem_nil
  | cons i items ih =>
      rw [List.forall_mem_cons, ← ih, ← piece i (wire bytes items tail)]
      constructor
      · exact fun reads => reads.head
      · rintro ⟨ran, on⟩
        exact .next ran on

end Rows

/-! ## Parts of a frame -/

/-- `read_exact`: short of `n` symbols the rest of the input is used up. -/
def readExact (eof : ε) (n : Nat) : Program (List α) ε (List α) := fun input =>
  if n ≤ input.length then (.ok (input.take n), input.drop n) else (.error eof, [])

theorem readExact_append {eof : ε} {n : Nat} {front rest : List α} (length : front.length = n) :
    readExact eof n (front ++ rest) = (.ok front, rest) := by
  unfold readExact
  rw [List.length_append, if_pos (by omega), List.take_left' length, List.drop_left' length]

theorem readExact_ok {eof : ε} {n : Nat} {input front rest : List α}
    (ran : readExact eof n input = (.ok front, rest)) :
    input = front ++ rest ∧ front.length = n := by
  unfold readExact at ran
  split at ran
  · next enough =>
    cases ran
    exact ⟨(List.take_append_drop n input).symm, List.length_take_of_le enough⟩
  · cases ran

variable [DecidableEq α]

/-- Skip to behind the first `marker`. -/
def skipTo (eof : ε) (marker : α) : Program (List α) ε Unit
  | [] => (.error eof, [])
  | a :: rest => if a = marker then (.ok (), rest) else skipTo eof marker rest

theorem skipTo_noise {eof : ε} {marker : α} {noise : List α} (clean : marker ∉ noise)
    (rest : List α) : skipTo eof marker (noise ++ marker :: rest) = (.ok (), rest) := by
  induction noise with
  | nil => exact if_pos rfl
  | cons a noise ih =>
      obtain ⟨other, clean⟩ := List.ne_and_not_mem_of_not_mem_cons clean
      rw [List.cons_append, skipTo, if_neg (Ne.symm other), ih clean]

theorem skipTo_clean {eof : ε} {marker : α} {noise : List α} (clean : marker ∉ noise) :
    skipTo eof marker noise = (.error eof, []) := by
  induction noise with
  | nil => rfl
  | cons a noise ih =>
      obtain ⟨other, clean⟩ := List.ne_and_not_mem_of_not_mem_cons clean
      rw [skipTo, if_neg (Ne.symm other), ih clean]

/-! ## A start of two symbols

A reader that has met the first symbol and then drops whatever is not the second one, the first
symbol included. -/

/-- Skip to behind the first `a` met that `b` follows. -/
def skipToPair (eof : ε) (a b : α) : Program (List α) ε Unit
  | [] => (.error eof, [])
  | x :: rest =>
      if x ≠ a then skipToPair eof a b rest
      else match rest with
        | [] => (.error eof, [])
        | y :: rest => if y = b then (.ok (), rest) else skipToPair eof a b rest

/-- Nowhere in the list is `a` followed by `b`. -/
abbrev NoPair (a b : α) (noise : List α) : Prop := noise.IsChain fun x y => ¬(x = a ∧ y = b)

/-- How many of the last symbols are `a`. -/
def trailing (a : α) (noise : List α) : Nat := (noise.rtakeWhile (· = a)).length

variable {eof : ε} {a b x y : α} {noise rest : List α}

theorem trailing_cons (a x : α) (noise : List α) :
    trailing a (x :: noise) =
      if trailing a noise = noise.length ∧ x = a then noise.length + 1 else trailing a noise := by
  unfold trailing List.rtakeWhile
  rw [List.length_reverse, List.length_reverse, List.reverse_cons, List.takeWhile_append,
    List.length_reverse]
  by_cases full : (noise.reverse.takeWhile (· = a)).length = noise.length
  · by_cases same : x = a
    · simp [full, same]
    · simp [full, same]
  · simp [full]

theorem trailing_le (a : α) (noise : List α) : trailing a noise ≤ noise.length :=
  (List.rtakeWhile_suffix _ _).length_le

theorem trailing_other (other : x ≠ a) : trailing a (x :: noise) = trailing a noise := by
  rw [trailing_cons, if_neg fun both => other both.2]

theorem even_trailing_pair (a y : α) (noise : List α) :
    Even (trailing a (a :: y :: noise)) ↔ Even (trailing a noise) := by
  have short := trailing_le a noise
  rw [trailing_cons, trailing_cons, List.length_cons]
  by_cases full : trailing a noise = noise.length ∧ y = a
  · rw [if_pos full, if_pos ⟨rfl, rfl⟩, full.1, show noise.length + 1 + 1 = noise.length + 2 from rfl,
      Nat.even_add]
    simp
  · rw [if_neg full, if_neg]
    rintro ⟨beyond, -⟩
    omega

theorem skipToPair_other (other : x ≠ a) :
    skipToPair eof a b (x :: rest) = skipToPair eof a b rest := by
  rw [skipToPair.eq_def]
  exact if_pos other

theorem skipToPair_armed :
    skipToPair eof a b (a :: y :: rest) =
      if y = b then (.ok (), rest) else skipToPair eof a b rest := by
  rw [skipToPair.eq_def]
  exact if_neg (not_not.mpr rfl)

/-- Behind noise the start is met exactly if an even number of first symbols stands before it. -/
theorem skipToPair_noise (distinct : a ≠ b) (rest : List α) : ∀ noise, NoPair a b noise →
    skipToPair eof a b (noise ++ a :: b :: rest) =
      if Even (trailing a noise) then (.ok (), rest) else skipToPair eof a b rest
  | [], _ => by
      rw [if_pos (show Even (trailing a []) from ⟨0, rfl⟩), List.nil_append, skipToPair_armed,
        if_pos rfl]
  | [x], _ => by
      by_cases first : x = a
      · have odd : ¬Even (trailing a [a]) := by
          rw [trailing_cons, if_pos ⟨rfl, rfl⟩]
          exact Nat.not_even_one
        rw [first, if_neg odd, List.singleton_append, skipToPair_armed, if_neg distinct,
          skipToPair_other distinct.symm]
      · rw [trailing_other first, List.singleton_append, skipToPair_other first]
        exact skipToPair_noise distinct rest [] .nil
  | x :: y :: noise, clean => by
      by_cases first : x = a
      · have second : y ≠ b := fun same => (List.isChain_cons_cons.mp clean).1 ⟨first, same⟩
        rw [first, List.cons_append, List.cons_append, skipToPair_armed, if_neg second,
          skipToPair_noise distinct rest noise clean.tail.tail]
        simp only [even_trailing_pair]
      · rw [List.cons_append, skipToPair_other first,
          skipToPair_noise distinct rest (y :: noise) clean.tail, trailing_other first]

theorem skipToPair_clean : ∀ noise, NoPair a b noise →
    skipToPair eof a b noise = (.error eof, [])
  | [], _ => rfl
  | [x], _ => by
      rw [skipToPair.eq_def]
      dsimp only
      split <;> rfl
  | x :: y :: noise, clean => by
      by_cases first : x = a
      · have second : y ≠ b := fun same => (List.isChain_cons_cons.mp clean).1 ⟨first, same⟩
        rw [first, skipToPair_armed, if_neg second, skipToPair_clean noise clean.tail.tail]
      · rw [skipToPair_other first, skipToPair_clean (y :: noise) clean.tail]

/-- Two symbols at least are used up. -/
theorem skipToPair_length : ∀ input, skipToPair eof a b input = (.ok (), rest) →
    rest.length + 2 ≤ input.length
  | [], ran => by cases ran
  | [x], ran => by
      by_cases first : x = a
      · rw [first, skipToPair.eq_def] at ran
        dsimp only at ran
        rw [if_neg (not_not.mpr rfl)] at ran
        cases ran
      · rw [skipToPair_other first] at ran
        cases ran
  | x :: y :: input, ran => by
      by_cases first : x = a
      · rw [first, skipToPair_armed] at ran
        split at ran
        · cases ran
          exact le_rfl
        · exact (skipToPair_length input ran).trans (Nat.le_add_right _ 2)
      · rw [skipToPair_other first] at ran
        exact (skipToPair_length (y :: input) ran).trans (Nat.le_succ _)

end SupplyDrop.Library.Framing
