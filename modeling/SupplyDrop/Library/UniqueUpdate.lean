import Mathlib

/-! `UPDATE` of the rows of a table with a unique key, one row after the other. A row whose key
changes is checked against every other row as it stands at that moment. -/

namespace SupplyDrop.Library.UniqueUpdate
variable {α κ : Type} [DecidableEq κ] (key : α → κ) (set : α → α)

/-- Some row of the second list meets a row with its new key, the first list being updated. -/
def clashes : List α → List α → Bool
  | _, [] => false
  | done, r :: rest =>
      (key (set r) ≠ key r && (done ++ rest).any fun q => key q = key (set r)) ||
        clashes (done ++ [set r]) rest

variable {key set} {done rest : List α}

theorem nodup_of_no_clash (before : ((done ++ rest).map key).Nodup)
    (none : clashes key set done rest = false) :
    (done.map key ++ rest.map fun r => key (set r)).Nodup := by
  induction rest generalizing done with
  | nil => simpa using before
  | cons r rest ih =>
      obtain ⟨here, later⟩ := Bool.or_eq_false_iff.mp none
      have moved : ((done ++ [set r] ++ rest).map key).Nodup := by
        have order : (done ++ [set r] ++ rest).Perm (set r :: (done ++ rest)) := by simp
        have order' : (done ++ r :: rest).Perm (r :: (done ++ rest)) := List.perm_middle
        rw [(order.map key).nodup_iff, List.map_cons, List.nodup_cons]
        rw [(order'.map key).nodup_iff, List.map_cons, List.nodup_cons] at before
        refine ⟨?_, before.2⟩
        intro taken
        by_cases same : key (set r) = key r
        · rw [same] at taken
          exact before.1 taken
        · obtain ⟨q, mem, eq⟩ := List.mem_map.mp taken
          have hit : ((done ++ rest).any fun q => key q = key (set r)) = true :=
            List.any_eq_true.mpr ⟨q, mem, by simpa using eq⟩
          simp [same, hit] at here
      simpa using ih moved later

theorem nodup_of_ok (key : α → κ) (set : α → α) {rows : List α} (before : (rows.map key).Nodup)
    (none : clashes key set [] rows = false) : (rows.map fun r => key (set r)).Nodup := by
  have start : ((([] : List α) ++ rows).map key).Nodup := by simpa using before
  simpa using nodup_of_no_clash start none

/-- When no row takes a key that another row has yet to give up, the keys at the end decide. -/
theorem no_clash (waits : ∀ r ∈ rest, ∀ q ∈ rest, key (set r) ≠ key r → key q = key (set r) →
      key (set q) = key q)
    (after : (done.map key ++ rest.map fun r => key (set r)).Nodup) :
    clashes key set done rest = false := by
  induction rest generalizing done with
  | nil => rfl
  | cons r rest ih =>
      have later : clashes key set (done ++ [set r]) rest = false := by
        apply ih fun a ha b hb => waits a (List.mem_cons_of_mem _ ha) b (List.mem_cons_of_mem _ hb)
        simpa using after
      have apart := (List.nodup_append.mp after).2.2
      have first := (List.nodup_cons.mp (List.nodup_append.mp after).2.1).1
      unfold clashes
      rw [later, Bool.or_false, Bool.and_eq_false_iff, ← Bool.not_eq_true, ← Bool.not_eq_true,
        ← not_and_or]
      rintro ⟨changed, hit⟩
      obtain ⟨q, mem, eq⟩ := List.any_eq_true.mp hit
      simp only [decide_eq_true_eq] at changed eq
      rcases List.mem_append.mp mem with old | coming
      · exact apart _ (List.mem_map_of_mem old) _ List.mem_cons_self eq
      · have kept := waits r List.mem_cons_self q (List.mem_cons_of_mem _ coming) changed eq
        apply first
        exact List.mem_map.mpr ⟨q, coming, kept.trans eq⟩

theorem clashes_iff {rows : List α} (before : (rows.map key).Nodup)
    (waits : ∀ r ∈ rows, ∀ q ∈ rows, key (set r) ≠ key r → key q = key (set r) →
      key (set q) = key q) :
    clashes key set [] rows = false ↔ (rows.map fun r => key (set r)).Nodup := by
  constructor
  · exact nodup_of_ok key set before
  · intro after
    exact no_clash waits (by simpa using after)

end SupplyDrop.Library.UniqueUpdate
