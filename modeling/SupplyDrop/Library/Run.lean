import Mathlib

namespace SupplyDrop.Library

/-- The states a labelled system reaches from `s` when it takes only steps that `allowed` admits in
the state they start from. -/
inductive Reaches {σ ι : Type} (step : ι → σ → σ → Prop) (allowed : ι → σ → Prop) (s : σ) :
    σ → Prop where
  | start : Reaches step allowed s s
  | step {t u : σ} {label : ι} : Reaches step allowed s t → allowed label t → step label t u →
      Reaches step allowed s u

namespace Reaches
variable {σ ι : Type} {step : ι → σ → σ → Prop} {allowed : ι → σ → Prop} {s t : σ}

theorem invariant {I : σ → Prop} (run : Reaches step allowed s t) (start : I s)
    (keeps : ∀ label t u, I t → allowed label t → step label t u → I u) : I t := by
  induction run with
  | start => exact start
  | step run admitted next ih => exact keeps _ _ _ ih admitted next

theorem trans {u : σ} (first : Reaches step allowed s t) (rest : Reaches step allowed t u) :
    Reaches step allowed s u := by
  induction rest with
  | start => exact first
  | step _ admitted next ih => exact .step ih admitted next

/-! ## Systems whose next state the label determines -/

/-- Every one of the labels is admitted where its turn comes. -/
def Follows (next : σ → ι → σ) (allowed : ι → σ → Prop) : List ι → σ → Prop
  | [], _ => True
  | label :: rest, s => allowed label s ∧ Follows next allowed rest (next s label)

instance instDecidableFollows (next : σ → ι → σ) (allowed : ι → σ → Prop)
    [∀ label s, Decidable (allowed label s)] :
    ∀ labels s, Decidable (Follows next allowed labels s)
  | [], _ => isTrue trivial
  | label :: rest, s =>
      have := instDecidableFollows next allowed rest (next s label)
      inferInstanceAs (Decidable (allowed label s ∧ Follows next allowed rest (next s label)))

theorem follow {next : σ → ι → σ} {labels : List ι} (h : Follows next allowed labels s) :
    Reaches (fun label s t => t = next s label) allowed s (labels.foldl next s) := by
  induction labels generalizing s with
  | nil => exact .start
  | cons label rest ih => exact trans (step .start h.1 rfl) (ih h.2)

/-- The same where a step may be refused. -/
theorem follow_taken {next : σ → ι → Option σ} {labels : List ι}
    (h : Follows (fun s label => (next s label).getD s)
      (fun label s => allowed label s ∧ (next s label).isSome) labels s) :
    Reaches (fun label s t => next s label = some t) allowed s
      (labels.foldl (fun s label => (next s label).getD s) s) := by
  induction labels generalizing s with
  | nil => exact .start
  | cons label rest ih =>
      obtain ⟨⟨admitted, taken⟩, later⟩ := h
      obtain ⟨t, eq⟩ := Option.isSome_iff_exists.mp taken
      rw [List.foldl_cons]
      simp only [eq, Option.getD_some] at later ⊢
      exact trans (step .start admitted eq) (ih later)

theorem follow_free (next : σ → ι → σ) (labels : List ι) (s : σ) :
    Reaches (fun label s t => t = next s label) (fun _ _ => True) s (labels.foldl next s) := by
  apply follow
  induction labels generalizing s with
  | nil => exact trivial
  | cons label rest ih => exact ⟨trivial, ih (next s label)⟩

end Reaches

/-! ## What happens no more often than something else -/

/-- How many of the labels `p` holds of where their turn comes. -/
def occurrences {σ ι : Type} (next : σ → ι → σ) (p : σ → ι → Bool) : List ι → σ → Nat
  | [], _ => 0
  | label :: rest, s => (if p s label then 1 else 0) + occurrences next p rest (next s label)

/-- What only happens in a certain state, and ends it, happens no more often than it is entered. -/
theorem occurrences_le {σ ι : Type} {next : σ → ι → σ} {inside : σ → Bool} {fires : σ → ι → Bool}
    (leaves : ∀ s label, fires s label = true → inside s = true ∧ inside (next s label) = false)
    (labels : List ι) (s : σ) : occurrences next fires labels s ≤
      occurrences next (fun s label => !inside s && inside (next s label)) labels s +
        if inside s then 1 else 0 := by
  induction labels generalizing s with
  | nil => exact Nat.zero_le _
  | cons label rest ih =>
      have later := ih (next s label)
      rw [occurrences, occurrences]
      cases fired : fires s label with
      | true =>
          obtain ⟨before, after⟩ := leaves s label fired
          rw [after] at later
          rw [before]
          simp only [Bool.false_eq_true, ↓reduceIte, Bool.not_true, Bool.false_and] at later ⊢
          omega
      | false =>
          rcases Bool.eq_false_or_eq_true (inside s) with before | before <;>
            rcases Bool.eq_false_or_eq_true (inside (next s label)) with after | after <;>
            rw [after] at later <;> rw [before, after] <;>
            simp only [Bool.false_eq_true, ↓reduceIte, Bool.not_true, Bool.not_false, Bool.and_true,
              Bool.and_false] at later ⊢ <;> omega

/-! ## Histories that grow at the end -/

theorem split_last {α : Type} {xs before later : List α} {x y : α}
    (split : xs ++ [y] = before ++ x :: later) :
    (xs = before ∧ x = y ∧ later = []) ∨
      ∃ later', later = later' ++ [y] ∧ xs = before ++ x :: later' := by
  rcases List.eq_nil_or_concat later with rfl | ⟨later', z, rfl⟩
  · obtain ⟨same, last⟩ := List.append_inj' split rfl
    cases last
    exact .inl ⟨same, rfl, rfl⟩
  · rw [List.concat_eq_append, ← List.cons_append, ← List.append_assoc] at split
    obtain ⟨same, last⟩ := List.append_inj' split rfl
    cases last
    exact .inr ⟨later', List.concat_eq_append, same⟩

/-! ## Histories with the newest first -/

/-- `P` holds of every entry and what was there before it. -/
def Throughout {α : Type} (P : α → List α → Prop) (history : List α) : Prop :=
  ∀ x earlier, x :: earlier <:+ history → P x earlier

section Throughout
variable {α : Type} {P : α → List α → Prop} {x : α} {xs : List α}

theorem throughout_nil : Throughout P [] :=
  fun _ _ suffix => absurd (List.suffix_nil.mp suffix) (List.cons_ne_nil _ _)

theorem throughout_cons : Throughout P (x :: xs) ↔ P x xs ∧ Throughout P xs := by
  constructor
  · intro all
    refine ⟨all x xs List.suffix_rfl, fun y earlier older => ?_⟩
    exact all y earlier (List.suffix_cons_iff.mpr (.inr older))
  · rintro ⟨now, before⟩ y earlier suffix
    rcases List.suffix_cons_iff.mp suffix with same | older
    · cases same
      exact now
    · exact before y earlier older

instance instDecidableThroughout [∀ x xs, Decidable (P x xs)] : ∀ xs, Decidable (Throughout P xs)
  | [] => isTrue throughout_nil
  | x :: xs =>
      have := instDecidableThroughout xs
      decidable_of_iff (P x xs ∧ Throughout P xs) throughout_cons.symm

end Throughout

/-! ## States that behave in the same way

No run of admitted inputs leads to a look that tells them apart. -/

section Bisimulation

variable {σ ι κ ω : Type} {step : σ → ι → σ} {see : σ → κ → ω} {admitted : ι → Prop}
  {looked : κ → Prop} {s t : σ}

def Alike (step : σ → ι → σ) (see : σ → κ → ω) (admitted : ι → Prop) (looked : κ → Prop)
    (s t : σ) : Prop :=
  ∀ inputs : List ι, (∀ input ∈ inputs, admitted input) → ∀ look, looked look →
    see (inputs.foldl step s) look = see (inputs.foldl step t) look

/-- A relation between states that look the same, which every admitted input keeps to. -/
structure Bisimulation (step : σ → ι → σ) (see : σ → κ → ω) (admitted : ι → Prop)
    (looked : κ → Prop) (R : σ → σ → Prop) : Prop where
  sees : ∀ s t, R s t → ∀ look, looked look → see s look = see t look
  steps : ∀ s t, R s t → ∀ input, admitted input → R (step s input) (step t input)

theorem Bisimulation.alike {R : σ → σ → Prop}
    (bisimulation : Bisimulation step see admitted looked R) (related : R s t) :
    Alike step see admitted looked s t := by
  intro inputs allowed look fair
  induction inputs generalizing s t with
  | nil => exact bisimulation.sees s t related look fair
  | cons input rest ih =>
      have next := bisimulation.steps s t related input (allowed input List.mem_cons_self)
      exact ih next fun i mem => allowed i (List.mem_cons_of_mem input mem)

theorem Alike.next (alike : Alike step see admitted looked s t) (input : ι)
    (allowed : admitted input) : Alike step see admitted looked (step s input) (step t input) := by
  intro inputs rest look fair
  apply alike (input :: inputs) ?_ look fair
  intro i mem
  rcases List.mem_cons.mp mem with rfl | mem
  · exact allowed
  · exact rest i mem

theorem Alike.looks (alike : Alike step see admitted looked s t) (look : κ) (fair : looked look) :
    see s look = see t look :=
  alike [] (fun _ mem => absurd mem List.not_mem_nil) look fair

end Bisimulation

end SupplyDrop.Library
