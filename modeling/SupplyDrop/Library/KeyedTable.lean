import Mathlib

namespace SupplyDrop.Library

/-- A finite map whose entries carry their own keys, as a list in the order they were put. -/
structure KeyedTable {α κ : Type} (key : α → κ) where
  entries : List α
  distinct : (entries.map key).Nodup

namespace KeyedTable
variable {α κ : Type} [DecidableEq κ] {key : α → κ}

def empty : KeyedTable key := ⟨[], List.nodup_nil⟩

def get? (t : KeyedTable key) (k : κ) : Option α := t.entries.find? fun a => key a = k

def erase (t : KeyedTable key) (k : κ) : KeyedTable key where
  entries := t.entries.filter fun a => key a ≠ k
  distinct := t.distinct.sublist (List.filter_sublist.map _)

def put (t : KeyedTable key) (a : α) : KeyedTable key where
  entries := (t.erase (key a)).entries ++ [a]
  distinct := by
    have apart : key a ∉ ((t.erase (key a)).entries).map key := by
      intro mem
      obtain ⟨b, hb, same⟩ := List.mem_map.mp mem
      simp [erase, same] at hb
    rw [List.map_append, List.nodup_append]
    refine ⟨(t.erase (key a)).distinct, List.nodup_singleton _, ?_⟩
    rintro k hk k' hk' rfl
    rw [List.map_singleton, List.mem_singleton] at hk'
    exact apart (hk' ▸ hk)

def modify (t : KeyedTable key) (k : κ) (f : α → α) (keeps : ∀ a, key (f a) = key a) :
    KeyedTable key where
  entries := t.entries.map fun a => if key a = k then f a else a
  distinct := by
    have same : (t.entries.map fun a => if key a = k then f a else a).map key =
        t.entries.map key := by
      rw [List.map_map]
      apply List.map_congr_left
      intro a _
      simp only [Function.comp_apply]
      split
      · exact keeps a
      · rfl
    rw [same]
    exact t.distinct

def filter (t : KeyedTable key) (keep : α → Bool) : KeyedTable key where
  entries := t.entries.filter keep
  distinct := t.distinct.sublist (List.filter_sublist.map _)

variable {t : KeyedTable key} {a : α} {k : κ}

theorem get?_eq_some : t.get? k = some a ↔ a ∈ t.entries ∧ key a = k := by
  constructor
  · intro found
    exact ⟨List.mem_of_find?_eq_some found, by simpa using List.find?_some found⟩
  · rintro ⟨mem, rfl⟩
    cases found : t.get? (key a) with
    | none =>
        have missed := List.find?_eq_none.mp found a mem
        simp at missed
    | some b =>
        have same : key b = key a := by simpa using List.find?_some found
        rw [List.inj_on_of_nodup_map t.distinct (List.mem_of_find?_eq_some found) mem same]

theorem mem_entries : a ∈ t.entries ↔ t.get? (key a) = some a := by simp [get?_eq_some]

theorem key_of_get? (h : t.get? k = some a) : key a = k := (get?_eq_some.mp h).2

@[simp] theorem get?_empty (k : κ) : (empty : KeyedTable key).get? k = none := rfl

theorem get?_erase (t : KeyedTable key) (k i : κ) :
    (t.erase k).get? i = if i = k then none else t.get? i := by
  ext b
  rw [get?_eq_some]
  simp only [erase, List.mem_filter, decide_eq_true_eq]
  split
  · next same =>
    subst same
    simp only [reduceCtorEq, iff_false]
    rintro ⟨⟨-, other⟩, rfl⟩
    exact other rfl
  · next other =>
    rw [get?_eq_some]
    constructor
    · rintro ⟨⟨mem, -⟩, rfl⟩
      exact ⟨mem, rfl⟩
    · rintro ⟨mem, rfl⟩
      exact ⟨⟨mem, other⟩, rfl⟩

theorem get?_put (t : KeyedTable key) (a : α) (i : κ) :
    (t.put a).get? i = if i = key a then some a else t.get? i := by
  unfold put get?
  rw [List.find?_append]
  by_cases same : i = key a
  · subst same
    have gone : (t.erase (key a)).entries.find? (fun b => key b = key a) = none := by
      have erased := get?_erase t (key a) (key a)
      rwa [if_pos rfl] at erased
    rw [gone]
    simp
  · have kept : (t.erase (key a)).entries.find? (fun b => key b = i) = t.get? i := by
      have erased := get?_erase t (key a) i
      rwa [if_neg same] at erased
    rw [kept, if_neg same]
    simp [Ne.symm same, get?]

theorem get?_modify (t : KeyedTable key) (k : κ) (f : α → α) (keeps : ∀ a, key (f a) = key a)
    (i : κ) : (t.modify k f keeps).get? i = if i = k then (t.get? i).map f else t.get? i := by
  unfold modify get?
  rw [List.find?_map]
  have pred : ((fun b => decide (key b = i)) ∘ fun b => if key b = k then f b else b) =
      fun b => decide (key b = i) := by
    funext b
    simp only [Function.comp_apply]
    split
    · rw [keeps]
    · rfl
  rw [pred]
  cases found : t.entries.find? fun b => key b = i with
  | none => simp
  | some b =>
      have same : key b = i := by simpa using List.find?_some found
      simp only [Option.map_some, same]
      split <;> rfl

theorem get?_filter (t : KeyedTable key) (keep : α → Bool) (k : κ) :
    (t.filter keep).get? k = (t.get? k).filter keep := by
  ext a
  rw [get?_eq_some, Option.filter_eq_some_iff, get?_eq_some]
  simp only [filter, List.mem_filter]
  constructor
  · rintro ⟨⟨mem, kept⟩, eq⟩
    exact ⟨⟨mem, eq⟩, kept⟩
  · rintro ⟨⟨mem, eq⟩, kept⟩
    exact ⟨⟨mem, kept⟩, eq⟩

theorem countP_modify (f : α → α) (keeps : ∀ a, key (f a) = key a) (p : α → Bool)
    (found : t.get? k = some a) :
    (t.modify k f keeps).entries.countP p + (if p a then 1 else 0) =
      t.entries.countP p + (if p (f a) then 1 else 0) := by
  obtain ⟨mem, rfl⟩ := get?_eq_some.mp found
  obtain ⟨before, after, split⟩ := List.append_of_mem mem
  have distinct := t.distinct
  simp only [split, List.map_append, List.map_cons, List.nodup_append, List.nodup_cons] at distinct
  have same (l : List α) (apart : ∀ b ∈ l, key b ≠ key a) :
      (l.map fun b => if key b = key a then f b else b) = l := by
    conv_rhs => rw [← List.map_id l]
    apply List.map_congr_left
    intro b hb
    exact if_neg (apart b hb)
  have left := same before fun b hb eq =>
    distinct.2.2 (key b) (List.mem_map_of_mem hb) (key a) List.mem_cons_self eq
  have right := same after fun b hb eq => distinct.2.1.1 (eq ▸ List.mem_map_of_mem hb)
  simp only [modify, split, List.map_append, List.map_cons, left, right, if_true,
    List.countP_append, List.countP_cons]
  omega

theorem entries_put (absent : t.get? (key a) = none) : (t.put a).entries = t.entries ++ [a] := by
  have kept : (t.erase (key a)).entries = t.entries := by
    apply List.filter_eq_self.mpr
    intro b mem
    rw [get?, List.find?_eq_none] at absent
    simpa using absent b mem
  show (t.erase (key a)).entries ++ [a] = t.entries ++ [a]
  rw [kept]

/-- An entry and the others are all the entries. -/
theorem perm_erase (found : t.get? k = some a) : t.entries.Perm (a :: (t.erase k).entries) := by
  obtain ⟨mem, rfl⟩ := get?_eq_some.mp found
  obtain ⟨before, after, split⟩ := List.append_of_mem mem
  have distinct := t.distinct
  simp only [split, List.map_append, List.map_cons, List.nodup_append, List.nodup_cons] at distinct
  have same (l : List α) (apart : ∀ b ∈ l, key b ≠ key a) :
      (l.filter fun b => key b ≠ key a) = l :=
    List.filter_eq_self.mpr fun b hb => by simpa using apart b hb
  have left := same before fun b hb eq =>
    distinct.2.2 (key b) (List.mem_map_of_mem hb) (key a) List.mem_cons_self eq
  have right := same after fun b hb eq => distinct.2.1.1 (eq ▸ List.mem_map_of_mem hb)
  simp only [erase, split, List.filter_append, left]
  rw [List.filter_cons_of_neg (by simp), right]
  exact List.perm_middle

end KeyedTable
end SupplyDrop.Library
