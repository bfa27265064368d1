import Mathlib

namespace SupplyDrop.Library

/-- A table with an `INTEGER PRIMARY KEY AUTOINCREMENT`: rows in ascending key order, and a counter
no key has ever exceeded. A key handed out once is never handed out again. -/
structure RowTable (α : Type) where
  rows : List (Int × α)
  seq : Int
  sorted : rows.Pairwise fun a b => a.1 < b.1
  bounded : ∀ r ∈ rows, r.1 ≤ seq

namespace RowTable
variable {α : Type}

def empty (seq : Int) : RowTable α where
  rows := []
  seq := seq
  sorted := List.Pairwise.nil
  bounded := by simp

def get? (t : RowTable α) (k : Int) : Option α :=
  (t.rows.find? fun r => r.1 = k).map (·.2)

def keys (t : RowTable α) : List Int := t.rows.map (·.1)

def insert (t : RowTable α) (a : α) : RowTable α where
  rows := t.rows ++ [(t.seq + 1, a)]
  seq := t.seq + 1
  sorted := by
    refine List.pairwise_append.mpr ⟨t.sorted, List.pairwise_singleton _ _, ?_⟩
    intro r hr s hs
    have := t.bounded r hr
    rw [List.mem_singleton.mp hs]
    omega
  bounded := by
    intro r hr
    rcases List.mem_append.mp hr with old | new
    · have := t.bounded r old
      omega
    · rw [List.mem_singleton.mp new]

def map (t : RowTable α) (f : Int → α → α) : RowTable α where
  rows := t.rows.map fun r => (r.1, f r.1 r.2)
  seq := t.seq
  sorted := List.pairwise_map.mpr t.sorted
  bounded := by
    intro r hr
    obtain ⟨s, hs, rfl⟩ := List.mem_map.mp hr
    exact t.bounded s hs

def update (t : RowTable α) (k : Int) (f : α → α) : RowTable α :=
  t.map fun i a => if i = k then f a else a

def filter (t : RowTable α) (p : Int → α → Bool) : RowTable α where
  rows := t.rows.filter fun r => p r.1 r.2
  seq := t.seq
  sorted := t.sorted.sublist List.filter_sublist
  bounded := fun r hr => t.bounded r (List.mem_of_mem_filter hr)

def erase (t : RowTable α) (k : Int) : RowTable α :=
  t.filter fun i _ => i ≠ k

/-- A row under a key of its own choice, which the counter then reaches at least. -/
def place (t : RowTable α) (k : Int) (a : α) : RowTable α where
  rows := t.rows.filter (·.1 < k) ++ (k, a) :: t.rows.filter (k < ·.1)
  seq := max t.seq k
  sorted := by
    have low := t.sorted.sublist (List.filter_sublist (p := (·.1 < k)))
    have high := t.sorted.sublist (List.filter_sublist (p := (k < ·.1)))
    refine List.pairwise_append.mpr ⟨low, List.pairwise_cons.mpr ⟨?_, high⟩, ?_⟩
    · intro r hr
      simpa using (List.mem_filter.mp hr).2
    · intro r hr s hs
      have below : r.1 < k := by simpa using (List.mem_filter.mp hr).2
      rcases List.mem_cons.mp hs with rfl | hs
      · exact below
      · have above : k < s.1 := by simpa using (List.mem_filter.mp hs).2
        exact below.trans above
  bounded := by
    intro r hr
    rcases List.mem_append.mp hr with low | rest
    · exact le_max_of_le_left (t.bounded r (List.mem_of_mem_filter low))
    · rcases List.mem_cons.mp rest with rfl | high
      · exact le_max_right _ _
      · exact le_max_of_le_left (t.bounded r (List.mem_of_mem_filter high))

def atLeast (t : RowTable α) (n : Int) : RowTable α where
  rows := t.rows
  seq := max t.seq n
  sorted := t.sorted
  bounded := fun r hr => le_max_of_le_left (t.bounded r hr)

theorem mem_rows_iff (t : RowTable α) (k : Int) (a : α) :
    (k, a) ∈ t.rows ↔ t.get? k = some a := by
  have sorted := t.sorted
  unfold get?
  generalize t.rows = rows at sorted ⊢
  induction rows with
  | nil => simp
  | cons r rs ih =>
      obtain ⟨i, b⟩ := r
      obtain ⟨least, rest⟩ := List.pairwise_cons.mp sorted
      by_cases eq : i = k
      · subst eq
        have fresh : (i, a) ∉ rs := fun mem => lt_irrefl i (least (i, a) mem)
        simp [fresh, eq_comm]
      · simp [Ne.symm eq, eq, ih rest]

theorem mem_keys_iff (t : RowTable α) (k : Int) : k ∈ t.keys ↔ (t.get? k).isSome := by
  simp only [keys, List.mem_map, Prod.exists, exists_and_right, exists_eq_right,
    Option.isSome_iff_exists, mem_rows_iff]

theorem keys_sorted (t : RowTable α) : t.keys.Pairwise (· < ·) :=
  List.pairwise_map.mpr t.sorted

theorem keys_nodup (t : RowTable α) : t.keys.Nodup :=
  t.keys_sorted.imp fun h => ne_of_lt h

/-- A key is in the table once at most. -/
theorem countP_key (t : RowTable α) (k : Int) :
    t.rows.countP (fun r => r.1 = k) = (t.get? k).toList.length := by
  have once : t.keys.count k = if k ∈ t.keys then 1 else 0 := t.keys_nodup.count
  have same : t.rows.countP (fun r => r.1 = k) = t.keys.count k := by
    rw [keys, List.count, List.countP_map]
    exact List.countP_congr fun r _ => by simp
  rw [same, once]
  cases found : t.get? k with
  | none =>
      rw [if_neg]
      · rfl
      · rw [mem_keys_iff, found]
        exact nofun
  | some a =>
      rw [if_pos]
      · rfl
      · rw [mem_keys_iff, found]
        rfl

theorem le_seq {t : RowTable α} {k : Int} {a : α} (h : t.get? k = some a) : k ≤ t.seq :=
  t.bounded (k, a) ((t.mem_rows_iff k a).mpr h)

theorem get?_fresh (t : RowTable α) : t.get? (t.seq + 1) = none := by
  cases h : t.get? (t.seq + 1) with
  | none => rfl
  | some a =>
      have := le_seq h
      omega

@[simp] theorem get?_empty (seq k : Int) : (empty seq : RowTable α).get? k = none := rfl

@[simp] theorem seq_insert (t : RowTable α) (a : α) : (t.insert a).seq = t.seq + 1 := rfl

@[simp] theorem seq_map (t : RowTable α) (f : Int → α → α) : (t.map f).seq = t.seq := rfl

@[simp] theorem seq_update (t : RowTable α) (k : Int) (f : α → α) : (t.update k f).seq = t.seq :=
  rfl

@[simp] theorem seq_filter (t : RowTable α) (p : Int → α → Bool) : (t.filter p).seq = t.seq := rfl

@[simp] theorem seq_erase (t : RowTable α) (k : Int) : (t.erase k).seq = t.seq := rfl

theorem get?_insert (t : RowTable α) (a : α) (k : Int) :
    (t.insert a).get? k = if k = t.seq + 1 then some a else t.get? k := by
  by_cases new : k = t.seq + 1
  · subst new
    rw [if_pos rfl, ← mem_rows_iff]
    simp [insert]
  · rw [if_neg new]
    ext b
    rw [← mem_rows_iff, ← mem_rows_iff]
    simp [insert, new]

@[simp] theorem get?_map (t : RowTable α) (f : Int → α → α) (k : Int) :
    (t.map f).get? k = (t.get? k).map (f k) := by
  ext b
  rw [← mem_rows_iff]
  simp only [map, List.mem_map, Prod.mk.injEq, Prod.exists, Option.map_eq_some_iff, mem_rows_iff]
  constructor
  · rintro ⟨i, a, h, rfl, rfl⟩
    exact ⟨a, h, rfl⟩
  · rintro ⟨a, h, rfl⟩
    exact ⟨k, a, h, rfl, rfl⟩

theorem get?_update (t : RowTable α) (k : Int) (f : α → α) (i : Int) :
    (t.update k f).get? i = if i = k then (t.get? i).map f else t.get? i := by
  rw [update, get?_map]
  split <;> simp_all

@[simp] theorem get?_filter (t : RowTable α) (p : Int → α → Bool) (k : Int) :
    (t.filter p).get? k = (t.get? k).filter (p k) := by
  ext b
  rw [← mem_rows_iff]
  simp [filter, List.mem_filter, mem_rows_iff, Option.filter_eq_some_iff]

theorem get?_erase (t : RowTable α) (k i : Int) :
    (t.erase k).get? i = if i = k then none else t.get? i := by
  rw [erase, get?_filter]
  by_cases same : i = k <;> cases t.get? i <;> simp [same]

theorem get?_place (t : RowTable α) (k : Int) (a : α) (i : Int) :
    (t.place k a).get? i = if i = k then some a else t.get? i := by
  ext b
  rw [← mem_rows_iff]
  by_cases same : i = k
  · simp [place, same, eq_comm]
  · have apart : i < k ∨ k < i := lt_or_gt_of_ne same
    simp only [place, List.mem_append, List.mem_filter, List.mem_cons, Prod.mk.injEq, same,
      false_and, false_or, decide_eq_true_eq, if_false, ← mem_rows_iff]
    tauto

@[simp] theorem get?_atLeast (t : RowTable α) (n k : Int) : (t.atLeast n).get? k = t.get? k := rfl

theorem get?_of_find? {t : RowTable α} {p : Int × α → Bool} {r : Int × α}
    (h : t.rows.find? p = some r) : t.get? r.1 = some r.2 :=
  (t.mem_rows_iff r.1 r.2).mp (List.mem_of_find?_eq_some h)

theorem find?_eq_of_unique {t : RowTable α} {p : Int × α → Bool} {e : Option Int}
    (answers : ∀ k a, t.get? k = some a → (p (k, a) = true ↔ e = some k))
    (present : ∀ k, e = some k → (t.get? k).isSome) :
    (t.rows.find? p).map (·.1) = e := by
  cases found : t.rows.find? p with
  | some r =>
      have stored := get?_of_find? found
      exact ((answers r.1 r.2 stored).mp (List.find?_some found)).symm
  | none =>
      cases e with
      | none => rfl
      | some k =>
          obtain ⟨a, stored⟩ := Option.isSome_iff_exists.mp (present k rfl)
          have missed := List.find?_eq_none.mp found (k, a) ((t.mem_rows_iff k a).mpr stored)
          exact absurd ((answers k a stored).mpr rfl) missed

end RowTable
end SupplyDrop.Library
