import Mathlib

/-! # Lines of columns

Columns between separators, with what would break them escaped. -/

namespace SupplyDrop.Library.Columns
variable {α : Type}

/-! ## Escapes -/

/-- A mark that starts an escape, and what stands behind it for each symbol that needs one. -/
structure Escapes (α : Type) where
  mark : α
  code : α → Option α
  read : α → Option α
  read_code : ∀ {a d}, code a = some d → read d = some a
  marks : code mark ≠ none

def escape (x : Escapes α) (s : List α) : List α :=
  s.flatMap fun a => match x.code a with
    | some d => [x.mark, d]
    | none => [a]

theorem escape_cons_some {x : Escapes α} {a d : α} (coded : x.code a = some d) (s : List α) :
    escape x (a :: s) = x.mark :: d :: escape x s := by
  unfold escape
  rw [List.flatMap_cons, coded]
  rfl

theorem escape_cons_none {x : Escapes α} {a : α} (plain : x.code a = none) (s : List α) :
    escape x (a :: s) = a :: escape x s := by
  unfold escape
  rw [List.flatMap_cons, plain]
  rfl

/-- An escaped symbol that is neither the mark nor a code is gone. -/
theorem not_mem_escape {x : Escapes α} {a : α} (coded : x.code a ≠ none) (mark : a ≠ x.mark)
    (codes : ∀ c, x.code c ≠ some a) (s : List α) : a ∉ escape x s := by
  induction s with
  | nil => exact List.not_mem_nil
  | cons c s ih =>
      cases shape : x.code c with
      | some d =>
          have other : a ≠ d := fun same => codes c (same ▸ shape)
          rw [escape_cons_some shape]
          exact List.not_mem_cons_of_ne_of_not_mem mark (List.not_mem_cons_of_ne_of_not_mem other ih)
      | none =>
          have other : a ≠ c := fun same => coded (same ▸ shape)
          rw [escape_cons_none shape]
          exact List.not_mem_cons_of_ne_of_not_mem other ih

variable [DecidableEq α]

def unescape (x : Escapes α) : List α → Option (List α)
  | [] => some []
  | [a] => if a = x.mark then none else some [a]
  | a :: b :: rest =>
      if a = x.mark then do
        let c ← x.read b
        let s ← unescape x rest
        pure (c :: s)
      else do
        let s ← unescape x (b :: rest)
        pure (a :: s)

theorem unescape_plain (x : Escapes α) {a : α} (plain : a ≠ x.mark) (s : List α) :
    unescape x (a :: s) = (unescape x s).map (a :: ·) := by
  cases s with
  | nil => exact if_neg plain
  | cons b s =>
      rw [unescape, if_neg plain]
      cases unescape x (b :: s) with
      | none => rfl
      | some s => rfl

theorem unescape_escape (x : Escapes α) (s : List α) : unescape x (escape x s) = some s := by
  induction s with
  | nil => rfl
  | cons a s ih =>
      cases coded : x.code a with
      | some d =>
          rw [escape_cons_some coded, unescape, if_pos rfl, x.read_code coded, ih]
          rfl
      | none =>
          have plain : a ≠ x.mark := fun same => x.marks (same ▸ coded)
          rw [escape_cons_none coded, unescape_plain x plain, ih]
          rfl

theorem escape_injective (x : Escapes α) {s t : List α} (same : escape x s = escape x t) :
    s = t := by
  have read := congrArg (unescape x) same
  rw [unescape_escape, unescape_escape] at read
  exact Option.some.inj read

/-! ## Separators -/

theorem count_intercalate {sep : α} {columns : List (List α)} (plain : ∀ c ∈ columns, sep ∉ c) :
    ([sep].intercalate columns).count sep = columns.length - 1 := by
  induction columns with
  | nil => rfl
  | cons c columns ih =>
      obtain ⟨here, plain⟩ := List.forall_mem_cons.mp plain
      cases columns with
      | nil =>
          rw [List.intercalate_singleton, List.count_eq_zero.mpr here]
          rfl
      | cons d columns =>
          rw [List.intercalate_cons_cons, List.count_append, List.count_append, ih plain,
            List.count_eq_zero.mpr here, List.count_singleton_self]
          simp only [List.length_cons]
          omega

omit [DecidableEq α] in
theorem mem_intercalate {sep a : α} {columns : List (List α)}
    (mem : a ∈ [sep].intercalate columns) : a = sep ∨ ∃ c ∈ columns, a ∈ c := by
  induction columns with
  | nil => cases mem
  | cons c columns ih =>
      cases columns with
      | nil =>
          rw [List.intercalate_singleton] at mem
          exact .inr ⟨c, List.mem_cons_self, mem⟩
      | cons d columns =>
          rw [List.intercalate_cons_cons, List.mem_append, List.mem_append] at mem
          obtain (mem | mem) | mem := mem
          · exact .inr ⟨c, List.mem_cons_self, mem⟩
          · exact .inl (List.mem_singleton.mp mem)
          · obtain same | ⟨e, inside, mem⟩ := ih mem
            · exact .inl same
            · exact .inr ⟨e, List.mem_cons_of_mem c inside, mem⟩

/-! ## Cutting at a word -/

/-- `str::split_once` at a word: what stands before and behind its first occurrence. -/
def cutAt (word : List α) : List α → Option (List α × List α)
  | [] => if word = [] then some ([], []) else none
  | a :: s =>
      if word.isPrefixOf (a :: s) then some ([], (a :: s).drop word.length)
      else (cutAt word s).map fun parts => (a :: parts.1, parts.2)

theorem cutAt_append {a : α} {word front : List α} (clean : a ∉ front) (rest : List α) :
    cutAt (a :: word) (front ++ a :: (word ++ rest)) = some (front, rest) := by
  induction front with
  | nil =>
      rw [List.nil_append, cutAt, if_pos (by simp), List.length_cons, List.drop_succ_cons,
        List.drop_left]
  | cons b front ih =>
      obtain ⟨other, clean⟩ := List.ne_and_not_mem_of_not_mem_cons clean
      have differs : ¬(a :: word).isPrefixOf (b :: (front ++ a :: (word ++ rest))) = true := by
        rw [List.isPrefixOf_cons_cons]
        simp [other]
      rw [List.cons_append, cutAt, if_neg differs, ih clean]
      rfl

end SupplyDrop.Library.Columns
