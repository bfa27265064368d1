import Mathlib
import SupplyDrop.Proof.Restore.Steps

namespace SupplyDrop.Proof.Restore
open SupplyDrop.Restore Library
variable {C : Type} {site : Site C} {start : Start} {n : Nat} {l : Layout C}
  {E : Files RestoreFile C → Prop}

/-- An operation fails, other than the rename that a restore across file systems can't do. -/
def SomeFails (start : Start) : Prop :=
  ∃ op why, op ≠ .rename .pending .db ∧ start.fate op = .fails why

/-! ## Pruning -/

theorem removeSnapshots_ends {Q : Layout C → Prop} (stamps : List Nat) (others : n ∉ stamps) :
    Ends (fun t => Q (layout n t) ∧ StopsAfterSwap start) E (fun t => Q (layout n t))
      (removeSnapshots start stamps) fun _ t => Q (layout n t) := by
  induction stamps with
  | nil => exact Ends.ret fun _ ht => ht
  | cons stamp rest ih =>
      obtain ⟨other, later⟩ := not_or.mp (List.mem_cons.not.mp others)
      apply Ends.bind (Q := fun _ t => Q (layout n t))
      · apply Ends.ignoring
        apply Ends.remove
        · exact fun dies t ht => ⟨ht, _, rfl, dies⟩
        · exact fun t ht _ => ht
        · intro _ t ht
          simpa [Layout.set, Ne.symm other] using ht
      intro _
      apply Ends.bind (Q := fun _ t => Q (layout n t))
      · apply Ends.ignoring
        apply Ends.remove
        · exact fun dies t ht => ⟨ht, _, rfl, dies⟩
        · exact fun t ht _ => ht
        · intro _ t ht
          simpa [Layout.set, Ne.symm other] using ht
      · exact fun _ => ih later

theorem pruneOldSnapshots_ends {Q : Layout C → Prop} :
    Ends (fun t => Q (layout n t) ∧ StopsAfterSwap start) E (fun t => Q (layout n t))
      (pruneOldSnapshots start (some n)) fun _ t => Q (layout n t) := by
  apply Ends.bind (Q := fun _ t => Q (layout n t))
  · apply Ends.tried (F := fun t => Q (layout n t))
    · apply Ends.operate
      · exact fun dies t ht => ⟨ht, _, rfl, dies⟩
      · exact fun t ht _ => ht
      · intro _ t names t' ht found
        cases found
        exact ht
    · exact fun _ _ ht => ht
  intro listed
  cases listed with
  | error _ => exact Ends.ret fun _ ht => ht
  | ok names =>
      apply removeSnapshots_ends
      intro mem
      have sorted := (List.perm_insertionSort (· ≥ ·) _).mem_iff.mp (List.mem_of_mem_drop mem)
      obtain ⟨file, -, eq⟩ := List.mem_filterMap.mp sorted
      cases file <;> simp_all

/-! ## The config -/

/-- What merging the restored config `c` into the config `cfg` gives. -/
def Merges (site : Site C) (c : C) (cfg : Option C) (merged : C) : Prop :=
  site.configPath.isSome ∧ site.tooLarge c = false ∧
    site.mergeForRestore (cfg.getD site.emptyText) c = .ok merged

theorem atomicWriteFile_ends {file : RestoreFile} {text : C} :
    Ends (fun t => layout n t = l ∧ StopsAfterSwap start)
      (fun t => layout n t = l ∧ SomeFails start) (fun t => layout n t = l)
      (atomicWriteFile start file text) fun _ t => layout n t = l.set n file (some text) := by
  apply Ends.bind (Q := fun _ t => layout n t = l ∧ t.look (.tmpOf file) = some text)
  · apply Ends.write
    · exact fun dies t ht => ⟨ht, _, rfl, dies⟩
    · rintro t ht ⟨why, failed⟩
      exact ⟨ht, _, why, by simp, failed⟩
    · intro _ t ht
      exact ⟨by rw [layout_store, ht]; rfl, by simp⟩
  intro _
  apply Ends.bind_tried (Q := fun _ t => layout n t = l.set n file (some text))
    (F := fun t => layout n t = l ∧ SomeFails start)
  · apply Ends.rename
    · exact fun dies t ht => ⟨ht.1, _, rfl, dies⟩
    · rintro t ht (⟨why, failed⟩ | ⟨-, missing⟩)
      · exact ⟨ht.1, _, why, by simp, failed⟩
      · simp [ht.2] at missing
    · intro _ t c ht found
      rw [ht.2] at found
      cases found
      rw [layout_store, layout_drop, ht.1]
      rfl
  · exact fun _ => Ends.ret fun _ ht => ht
  · intro why
    apply Ends.bind (Q := fun _ t => layout n t = l ∧ SomeFails start)
    · apply Ends.ignoring
      apply Ends.remove
      · exact fun dies t ht => ⟨ht.1, _, rfl, dies⟩
      · exact fun t ht _ => ht
      · intro _ t ht
        exact ⟨by rw [layout_drop, ht.1]; rfl, ht.2⟩
    · exact fun _ => Ends.fail fun _ ht => ht

theorem savePrevious_ends {current : Option C} (config : l.config = current) :
    Ends (fun t => layout n t = l ∧ StopsAfterSwap start)
      (fun t => layout n t = l ∧ SomeFails start) (fun t => layout n t = l)
      (savePrevious start current) fun _ t => layout n t = l := by
  cases current with
  | none => exact Ends.ret fun _ ht => ht
  | some old =>
      apply Ends.bind (Q := fun _ t => layout n t = l)
      · apply Ends.stat
        · exact fun dies t ht => ⟨ht, _, rfl, dies⟩
        · rintro t ht (⟨why, failed⟩ | ⟨-, missing⟩)
          · exact ⟨ht, _, why, by simp, failed⟩
          · have none : (layout n t).config = none := missing
            rw [ht, config] at none
            cases none
        · exact fun _ _ ht => ht
      · exact fun _ => atomicWriteFile_ends

theorem applyConfig_ends {path : String} {c : C} (known : site.configPath = some path)
    (included : l.pendingConfig = some c) :
    Ends (fun t => layout n t = l ∧ StopsAfterSwap start)
      (fun t => layout n t = l ∧ ((¬ ∃ merged, Merges site c l.config merged) ∨ SomeFails start))
      (fun t => layout n t = l) (applyConfig site start path)
      fun _ t => ∃ merged, Merges site c l.config merged ∧
        layout n t = { l with config := some merged } := by
  have fails : ∀ {t}, layout n t = l → ∀ {op why}, op ≠ .rename .pending .db →
      start.fate op = .fails why →
      layout n t = l ∧ ((¬ ∃ merged, Merges site c l.config merged) ∨ SomeFails start) :=
    fun ht _ _ other failed => ⟨ht, .inr ⟨_, _, other, failed⟩⟩
  apply Ends.bind (Q := fun restored t => (restored = c ∧ site.tooLarge c = false) ∧ layout n t = l)
  · apply Ends.bind (Q := fun text t => text = c ∧ layout n t = l)
    · apply Ends.explaining
      apply Ends.read
      · exact fun dies t ht => ⟨ht, _, rfl, dies⟩
      · rintro t ht (⟨why, failed⟩ | ⟨-, missing⟩)
        · exact fails ht (by simp) failed
        · have none : (layout n t).pendingConfig = none := missing
          rw [ht, included] at none
          cases none
      · intro t c' ht found
        have there : (layout n t).pendingConfig = some c' := found
        rw [ht, included] at there
        cases there
        exact ⟨rfl, ht⟩
    intro text
    apply Ends.given
    rintro rfl
    cases large : site.tooLarge text with
    | true =>
        simp only [if_true]
        apply Ends.fail
        exact fun t ht => ⟨ht, .inl fun ⟨_, merges⟩ => by simp [merges.2.1] at large⟩
    | false =>
        simp only [Bool.false_eq_true, if_false]
        exact Ends.ret fun t ht => ⟨⟨rfl, trivial⟩, ht⟩
  intro restored
  apply Ends.given
  rintro ⟨rfl, small⟩
  apply Ends.bind (Q := fun _ t => layout n t = l)
  · apply Ends.explaining
    apply Ends.write
    · exact fun dies t ht => ⟨ht, _, rfl, dies⟩
    · rintro t ht ⟨why, failed⟩
      exact fails ht (by simp) failed
    · intro _ t ht
      rw [layout_store, ht]
      rfl
  intro _
  apply Ends.bind (Q := fun current t => current = l.config ∧ layout n t = l)
  · apply Ends.explaining
    apply Ends.bind (Q := fun there t => there = l.config.isSome ∧ layout n t = l)
    · apply Ends.isThere
      intro t ht
      have same : (layout n t).config = l.config := by rw [ht]
      exact ⟨congrArg Option.isSome same, ht⟩
    intro there
    apply Ends.given
    intro present
    cases there with
    | false =>
        have none : l.config = none := by simpa using present.symm
        exact Ends.ret fun t ht => ⟨none.symm, ht⟩
    | true =>
        apply Ends.bind (Q := fun text t => some text = l.config ∧ layout n t = l)
        · apply Ends.read
          · exact fun dies t ht => ⟨ht, _, rfl, dies⟩
          · rintro t ht (⟨why, failed⟩ | ⟨-, missing⟩)
            · exact fails ht (by simp) failed
            · have none : (layout n t).config = none := missing
              rw [ht] at none
              simp [none] at present
          · intro t c' ht found
            have config : (layout n t).config = some c' := found
            rw [ht] at config
            exact ⟨config.symm, ht⟩
        · exact fun _ => Ends.ret fun _ ht => ht
  intro current
  apply Ends.given
  rintro rfl
  cases merging : site.mergeForRestore (l.config.getD site.emptyText) restored with
  | error why =>
      apply Ends.fail
      exact fun t ht => ⟨ht, .inl fun ⟨_, merges⟩ => by simp [merges.2.2] at merging⟩
  | ok merged =>
      apply Ends.explaining
      apply Ends.bind (Q := fun _ t => layout n t = l)
      · exact (savePrevious_ends rfl).weaken (fun _ ht => ht) fun _ ht => ⟨ht.1, .inr ht.2⟩
      intro _
      apply Ends.bind (Q := fun _ t => layout n t = l.set n .config (some merged))
      · apply atomicWriteFile_ends.weaken
        · exact fun _ ht => ht
        · exact fun _ ht => ⟨ht.1, .inr ht.2⟩
      · exact fun _ => Ends.ret fun t ht => ⟨merged, ⟨by simp [known], small, merging⟩, ht⟩

/-- The pending config is used up: merged into the config, or given up because it can't be or
because an operation failed. -/
structure ConfigSettled (site : Site C) (start : Start) (l l' : Layout C) : Prop where
  rest : l' = { l with pendingConfig := l'.pendingConfig, config := l'.config }
  pendingConfig : l'.pendingConfig = none ∨ l'.pendingConfig = l.pendingConfig
  config : (∃ c merged, l.pendingConfig = some c ∧ Merges site c l.config merged ∧
      l'.config = some merged) ∨
    l'.config = l.config ∧ ∀ c, l.pendingConfig = some c →
      (¬ ∃ merged, Merges site c l.config merged) ∨ SomeFails start

theorem configSettled_drop {l' : Layout C} (settled : ConfigSettled site start l l') :
    ConfigSettled site start l (l'.set n .pendingConfig none) := by
  obtain ⟨rest, -, config⟩ := settled
  refine ⟨?_, .inl rfl, config⟩
  rw [rest]
  rfl

theorem applyPendingConfig_ends :
    Ends (fun t => layout n t = l ∧ StopsAfterSwap start ∨ ConfigSettled site start l (layout n t)) E
      (fun t => layout n t = l) (applyPendingConfig site start)
      fun _ t => ConfigSettled site start l (layout n t) ∧
        ((layout n t).pendingConfig = none ∨ SomeFails start) := by
  apply Ends.bind (Q := fun included t => included = l.pendingConfig.isSome ∧ layout n t = l)
  · apply Ends.isThere
    intro t ht
    have same : (layout n t).pendingConfig = l.pendingConfig := by rw [ht]
    exact ⟨congrArg Option.isSome same, ht⟩
  intro included
  apply Ends.given
  intro present
  cases included with
  | false =>
      have none : l.pendingConfig = none := by simpa using present.symm
      apply Ends.ret
      rintro t rfl
      exact ⟨⟨rfl, .inl none, .inr ⟨rfl, by simp [none]⟩⟩, .inl none⟩
  | true =>
      obtain ⟨c, hc⟩ := Option.isSome_iff_exists.mp present.symm
      have removing : ∀ outcome : ConfigOutcome, Ends
          (fun t => layout n t = l ∧ StopsAfterSwap start ∨ ConfigSettled site start l (layout n t))
          E (fun t => ConfigSettled site start l (layout n t))
          (do Disk.ignoring (Disk.remove start.fate .pendingConfig)
              pure outcome)
          fun _ t => ConfigSettled site start l (layout n t) ∧
            ((layout n t).pendingConfig = none ∨ SomeFails start) := by
        intro outcome
        apply Ends.bind (Q := fun _ t => ConfigSettled site start l (layout n t) ∧
          ((layout n t).pendingConfig = none ∨ SomeFails start))
        · apply Ends.ignoring
          apply Ends.remove
          · exact fun _ _ ht => .inr ht
          · rintro t ht (⟨why, failed⟩ | ⟨-, missing⟩)
            · exact ⟨ht, .inr ⟨_, why, by simp, failed⟩⟩
            · exact ⟨ht, .inl missing⟩
          · intro _ t ht
            rw [layout_drop]
            exact ⟨configSettled_drop ht, .inl rfl⟩
        · exact fun _ => Ends.ret fun _ ht => ht
      have givenUp : ∀ t, layout n t = l →
          ((¬ ∃ merged, Merges site c l.config merged) ∨ SomeFails start) →
          ConfigSettled site start l (layout n t) := by
        rintro t rfl reason
        exact ⟨rfl, .inr rfl, .inr ⟨rfl, fun c' eq => by rw [hc] at eq; cases eq; exact reason⟩⟩
      apply Ends.bind (Q := fun _ t => ConfigSettled site start l (layout n t))
      · unfold configOutcome
        cases known : site.configPath with
        | none =>
            apply Ends.ret
            intro t ht
            apply givenUp t ht
            exact .inl fun ⟨_, located, _⟩ => by simp [known] at located
        | some path =>
            apply Ends.bind (Q := fun _ t => ConfigSettled site start l (layout n t))
            · apply Ends.tried (R := fun _ t => ConfigSettled site start l (layout n t))
              · apply ((applyConfig_ends known hc).weaken (fun _ ht => .inl ht)
                  fun _ ht => ht).conseq (fun _ ht => ht)
                rintro _ t ⟨merged, merges, ht⟩
                rw [ht]
                exact ⟨rfl, .inr rfl, .inl ⟨c, merged, hc, merges, rfl⟩⟩
              · exact fun _ t ht => givenUp t ht.1 ht.2
            · intro r
              cases r with
              | ok hadCurrent => exact Ends.ret fun _ ht => ht
              | error why => exact Ends.ret fun _ ht => ht
      · exact removing

end SupplyDrop.Proof.Restore
