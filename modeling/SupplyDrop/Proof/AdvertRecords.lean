import Mathlib
import SupplyDrop.Plugin.AdvertBus

namespace SupplyDrop.Proof.AdvertRecords
open Library Plugin Plugin.AdvertBus

variable {bus : AdvertBus} {pubkey other : AdvertKey} {record : AdvertRecord} {now : Nat}

theorem raised_bit (flags : BitVec 8) : (flags ||| 1) &&& 1 = 1 := by
  ext i
  cases h : (1 : BitVec 8).getLsbD i <;> simp_all

theorem lowered_bit (flags : BitVec 8) : flags &&& ~~~1 &&& 1 = 0 := by
  rw [BitVec.and_assoc]
  exact BitVec.and_zero

theorem mem_entries :
    (pubkey, record) ∈ bus.records.entries ↔ bus.get? pubkey = some record := by
  rw [KeyedTable.mem_entries]
  constructor
  · intro found
    simp [AdvertBus.get?, found]
  · intro found
    obtain ⟨e, held, rfl⟩ := Option.map_eq_some_iff.mp found
    have key := KeyedTable.key_of_get? held
    rw [held, ← key]

theorem get?_getMut (bus : AdvertBus) (pubkey : AdvertKey) (f : AdvertRecord → AdvertRecord)
    (other : AdvertKey) :
    (bus.getMut pubkey f).get? other =
      if other = pubkey then (bus.get? other).map f else bus.get? other := by
  simp only [AdvertBus.get?, getMut, KeyedTable.get?_modify]
  split
  · simp only [Option.map_map]
    rfl
  · rfl

theorem get?_entry (bus : AdvertBus) (pubkey : AdvertKey) (fresh : AdvertRecord)
    (f : AdvertRecord → AdvertRecord) (other : AdvertKey) :
    (bus.entry pubkey fresh f).get? other =
      if other = pubkey then some (f ((bus.get? pubkey).getD fresh)) else bus.get? other := by
  simp only [AdvertBus.get?, entry, KeyedTable.get?_put]
  split <;> rfl

/-- What a clear removes. -/
theorem mem_toRemove :
    pubkey ∈ (bus.records.entries.filter fun e => !isEffectivelyProtected e.2 now).map Prod.fst ↔
      ∃ record, bus.get? pubkey = some record ∧ isEffectivelyProtected record now = false := by
  rw [List.mem_map]
  constructor
  · rintro ⟨⟨key, record⟩, mem, rfl⟩
    obtain ⟨held, lost⟩ := List.mem_filter.mp mem
    exact ⟨record, mem_entries.mp held, by simpa using lost⟩
  · rintro ⟨record, found, lost⟩
    exact ⟨(pubkey, record), List.mem_filter.mpr ⟨mem_entries.mpr found, by simp [lost]⟩, rfl⟩

theorem get?_clear (bus : AdvertBus) (now : Nat) (pubkey : AdvertKey) :
    (bus.clearUnprotected now).2.get? pubkey =
      (bus.get? pubkey).filter fun record => isEffectivelyProtected record now := by
  have kept (e : AdvertEntry) (found : bus.records.get? pubkey = some e) :
      (!((bus.records.entries.filter fun e => !isEffectivelyProtected e.2 now).map
        Prod.fst).contains e.1) = isEffectivelyProtected e.2 now := by
    obtain ⟨mem, rfl⟩ := KeyedTable.get?_eq_some.mp found
    rw [Bool.eq_iff_iff, Bool.not_eq_true', List.contains_eq_mem, decide_eq_false_iff_not,
      mem_toRemove]
    constructor
    · intro apart
      by_contra lost
      exact apart ⟨e.2, mem_entries.mp mem, (Bool.not_eq_true _).mp lost⟩
    · rintro held ⟨record, found, lost⟩
      cases (mem_entries.mp mem).symm.trans found
      rw [held] at lost
      cases lost
  unfold clearUnprotected AdvertBus.get?
  dsimp only
  rw [KeyedTable.get?_filter]
  cases found : bus.records.get? pubkey with
  | none => rfl
  | some e =>
      simp only [Option.filter, kept e found, Option.map_some]
      split <;> rfl

end SupplyDrop.Proof.AdvertRecords
