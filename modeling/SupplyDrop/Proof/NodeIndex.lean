import Mathlib
import SupplyDrop.Library.Run
import SupplyDrop.Proof.AdvertCap
import SupplyDrop.Transport.NodeAdverts

namespace SupplyDrop.Proof.NodeIndex
open Library Plugin Plugin.AdvertBus AdvertRecords Transport.Meshtastic

/-! ## Keys -/

theorem prefix2_syntheticPubkey (node : NodeNum) : prefix2 (syntheticPubkey node) = 0x4D54 := by
  unfold prefix2 syntheticPubkey
  ext i hi
  simp only [BitVec.getElem_extractLsb', BitVec.getLsbD_append]
  rw [if_neg (by omega), if_neg (by omega)]
  rw [show 240 + i - 208 - 32 = i by omega, BitVec.getLsbD_eq_getElem]
  rfl

theorem syntheticPubkey_injective {node other : NodeNum}
    (same : syntheticPubkey node = syntheticPubkey other) : node = other :=
  (BitVec.append_right_inj _).mp ((BitVec.append_left_inj _).mp same)

/-! ## The index and its owners -/

variable {bus bus' : AdvertBus} {pubkey other : AdvertKey} {node : NodeNum} {now : Nat}

/-- An indexed record names its number, and the synthetic keys are owned by their own nodes. -/
structure Indexed (bus : AdvertBus) : Prop where
  owned : ∀ node pubkey, bus.nodeNumIndex node = some pubkey →
    bus.nodeNumOwningPubkey pubkey = some node
  synthetic : ∀ node owner, bus.nodeNumOwningPubkey (syntheticPubkey node) = some owner →
    owner = node

theorem Indexed.injective (indexed : Indexed bus) {node other : NodeNum} {pubkey : AdvertKey}
    (first : bus.nodeNumIndex node = some pubkey) (second : bus.nodeNumIndex other = some pubkey) :
    node = other := by
  have owner := indexed.owned node pubkey first
  rw [indexed.owned other pubkey second] at owner
  exact (Option.some.inj owner).symm

theorem Indexed.of_eq (indexed : Indexed bus) (index : bus'.nodeNumIndex = bus.nodeNumIndex)
    (owners : ∀ pubkey, bus'.nodeNumOwningPubkey pubkey = bus.nodeNumOwningPubkey pubkey) :
    Indexed bus' where
  owned node pubkey entry := by
    rw [owners]
    exact indexed.owned node pubkey (index ▸ entry)
  synthetic node owner owned := by
    rw [owners] at owned
    exact indexed.synthetic node owner owned

/-! ## Operations that leave the numbers alone -/

theorem entry_owner {fresh : AdvertRecord} {f : AdvertRecord → AdvertRecord}
    (unowned : fresh.nodeNum = none) (kept : ∀ record, (f record).nodeNum = record.nodeNum)
    (bus : AdvertBus) (pubkey other : AdvertKey) :
    (bus.entry pubkey fresh f).nodeNumOwningPubkey other = bus.nodeNumOwningPubkey other := by
  simp only [nodeNumOwningPubkey, get?_entry]
  split
  · next same =>
    rw [same, Option.bind_some, kept]
    cases bus.get? pubkey with
    | none => simpa using unowned
    | some record => rfl
  · rfl

theorem getMut_owner {f : AdvertRecord → AdvertRecord}
    (kept : ∀ record, (f record).nodeNum = record.nodeNum) (bus : AdvertBus)
    (pubkey other : AdvertKey) :
    (bus.getMut pubkey f).nodeNumOwningPubkey other = bus.nodeNumOwningPubkey other := by
  simp only [nodeNumOwningPubkey, get?_getMut]
  split
  · cases bus.get? other with
    | none => rfl
    | some record => exact kept record
  · rfl

theorem indexed_getMut {f : AdvertRecord → AdvertRecord}
    (kept : ∀ record, (f record).nodeNum = record.nodeNum) (indexed : Indexed bus) :
    Indexed (bus.getMut pubkey f) :=
  indexed.of_eq rfl fun other => getMut_owner kept bus pubkey other

theorem indexed_mark {isEligible : BitVec 8 → Option Bool} {protectedCap : Nat}
    {excludePrefixes : List (BitVec 48)} {hash : RecordOrder} {outcome : FavouriteOutcome}
    (indexed : Indexed bus) (marked : decideFavourite pubkey isEligible protectedCap
      excludePrefixes hash now bus = some (outcome, bus')) : Indexed bus' := by
  obtain ⟨_, _, eq, made⟩ := AdvertCap.decideFavourite_decides bus pubkey isEligible protectedCap
    excludePrefixes hash now
  rw [eq] at marked
  cases marked
  have kept (bus : AdvertBus) (key : AdvertKey) (indexed : Indexed bus) :
      Indexed (bus.getMut key (protect now)) := indexed_getMut (fun _ => rfl) indexed
  cases made with
  | noRecordYet => exact indexed
  | alreadyProtected => exact indexed
  | ineligible => exact indexed
  | capReached => exact indexed
  | room => exact kept bus pubkey indexed
  | evict => exact kept _ pubkey (indexed_getMut (fun _ => rfl) indexed)

/-- A clear takes the entries of the index with the records they name. -/
theorem indexed_clear (indexed : Indexed bus) (now : Nat) : Indexed (bus.clearUnprotected now).2 := by
  have surviving (pubkey : AdvertKey) (owner : NodeNum)
      (owned : (bus.clearUnprotected now).2.nodeNumOwningPubkey pubkey = some owner) :
      bus.nodeNumOwningPubkey pubkey = some owner := by
    rw [nodeNumOwningPubkey, get?_clear] at owned
    obtain ⟨record, kept, named⟩ := Option.bind_eq_some_iff.mp owned
    have found := (Option.filter_eq_some_iff.mp kept).1
    rw [nodeNumOwningPubkey, found]
    exact named
  constructor
  · intro node pubkey entry
    obtain ⟨named, stays⟩ := Option.filter_eq_some_iff.mp entry
    have owned := indexed.owned node pubkey named
    rw [nodeNumOwningPubkey] at owned ⊢
    obtain ⟨record, found, number⟩ := Option.bind_eq_some_iff.mp owned
    have held : isEffectivelyProtected record now = true := by
      by_contra lost
      have gone := mem_toRemove.mpr ⟨record, found, (Bool.not_eq_true _).mp lost⟩
      simp [gone] at stays
    rw [get?_clear, found, Option.filter_some, if_pos held]
    exact number
  · intro node owner owned
    exact indexed.synthetic node owner (surviving _ owner owned)

theorem indexed_other {op : Op} (other : BusInput.isNodeUpsert op = false) (indexed : Indexed bus)
    (ran : bus.run (op, now) = some bus') : Indexed bus' := by
  have seen {key : AdvertKey} {fresh : AdvertRecord} {f : AdvertRecord → AdvertRecord}
      (unowned : fresh.nodeNum = none) (kept : ∀ record, (f record).nodeNum = record.nodeNum) :
      Indexed (bus.entry key fresh f) :=
    indexed.of_eq rfl fun other => entry_owner unowned kept bus key other
  cases op with
  | upsert =>
      cases ran
      unfold AdvertBus.upsert
      exact seen rfl fun _ => rfl
  | upsertWithTimestamp =>
      cases ran
      unfold upsertWithTimestamp
      exact seen rfl fun _ => rfl
  | upsertShort =>
      cases ran
      unfold upsertShort
      exact seen rfl fun _ => rfl
  | upsertContact =>
      cases ran
      unfold upsertContact
      refine seen rfl fun record => ?_
      unfold syncProtection
      dsimp only
      repeat' split
      all_goals rfl
  | upsertMeshtasticNode => cases other
  | markFavouriteIfEligible =>
      obtain ⟨⟨outcome, _⟩, marked, rfl⟩ := Option.map_eq_some_iff.mp ran
      exact indexed_mark indexed marked
  | markFavouriteIfEligibleByNodeNum nodeNum =>
      obtain ⟨⟨outcome, _⟩, marked, rfl⟩ := Option.map_eq_some_iff.mp ran
      unfold markFavouriteIfEligibleByNodeNum at marked
      split at marked
      · cases marked
        exact indexed
      · exact indexed_mark indexed marked
  | unprotect key =>
      cases ran
      unfold unprotect
      split
      · exact indexed
      · split
        · exact indexed_getMut (fun _ => rfl) indexed
        · exact indexed
  | revertProtect key expectedGeneration =>
      cases ran
      refine indexed_getMut (fun record => ?_) indexed
      split <;> rfl
  | revertProtectByNodeNum nodeNum expectedGeneration =>
      cases ran
      unfold revertProtectByNodeNum
      split
      · exact indexed
      · refine indexed_getMut (fun record => ?_) indexed
        split <;> rfl
  | clearUnprotected =>
      cases ran
      exact indexed_clear indexed now

/-! ## Adverts of nodes -/

/-- Nobody but the node owns the key it is recorded under, unless nobody at all does. -/
theorem reportedKey_free (indexed : Indexed bus) (node : NodeNum) (publicKey : List (BitVec 8))
    (owner : NodeNum)
    (owned : bus.nodeNumOwningPubkey (reportedKey node publicKey bus) = some owner) :
    owner = node := by
  unfold reportedKey at owned
  cases chosen : ((key? publicKey).filter fun pk => prefix2 pk ≠ 0x4D54).filter fun pk =>
      (bus.nodeNumOwningPubkey pk).all (· = node) with
  | none =>
      rw [chosen] at owned
      exact indexed.synthetic node owner owned
  | some pubkey =>
      rw [chosen] at owned
      have own := (Option.filter_eq_some_iff.mp chosen).2
      rw [Option.getD_some] at owned
      simpa [owned] using own

theorem reportedKey_synthetic {publicKey : List (BitVec 8)} {other : NodeNum}
    (same : reportedKey node publicKey bus = syntheticPubkey other) : other = node := by
  unfold reportedKey at same
  cases chosen : ((key? publicKey).filter fun pk => prefix2 pk ≠ 0x4D54).filter fun pk =>
      (bus.nodeNumOwningPubkey pk).all (· = node) with
  | none =>
      rw [chosen] at same
      exact (syntheticPubkey_injective same).symm
  | some pubkey =>
      rw [chosen, Option.getD_some] at same
      have real := (Option.filter_eq_some_iff.mp (Option.filter_eq_some_iff.mp chosen).1).2
      rw [same, prefix2_syntheticPubkey] at real
      simp at real

/-- What an advert that is recorded leaves. -/
theorem recordNodeAdvert_lookups (info : NodeInfo) {user : User} (known : info.user = some user)
    (isFullSync : Bool) (now : Nat) (bus : AdvertBus) :
    (recordNodeAdvert info isFullSync now bus).2.nodeNumIndex =
        (fun n => if n = info.num then some (reportedKey info.num user.publicKey bus)
          else bus.nodeNumIndex n) ∧
      (∀ other, other ≠ reportedKey info.num user.publicKey bus →
        (recordNodeAdvert info isFullSync now bus).2.get? other = bus.get? other) ∧
      (recordNodeAdvert info isFullSync now bus).2.nodeNumOwningPubkey
        (reportedKey info.num user.publicKey bus) = some info.num := by
  simp only [recordNodeAdvert, known, upsertMeshtasticNode]
  refine ⟨rfl, fun other apart => ?_, ?_⟩
  · rw [get?_entry, if_neg apart]
    rfl
  · rw [nodeNumOwningPubkey, get?_entry, if_pos rfl, Option.bind_some]
    cases isFullSync with
    | false => rfl
    | true =>
        simp only [if_true, syncProtection]
        repeat' split
        all_goals rfl

theorem indexed_nodeAdvert (indexed : Indexed bus) (info : NodeInfo) (isFullSync : Bool)
    (now : Nat) : Indexed (recordNodeAdvert info isFullSync now bus).2 := by
  cases known : info.user with
  | none =>
      simp only [recordNodeAdvert, known]
      exact indexed
  | some user =>
      obtain ⟨index, others, own⟩ := recordNodeAdvert_lookups info known isFullSync now bus
      have free := reportedKey_free indexed info.num user.publicKey
      have kept {other : AdvertKey} (apart : other ≠ reportedKey info.num user.publicKey bus) :
          (recordNodeAdvert info isFullSync now bus).2.nodeNumOwningPubkey other =
            bus.nodeNumOwningPubkey other := by
        rw [nodeNumOwningPubkey, others other apart]
        rfl
      constructor
      · intro node pubkey entry
        rw [index] at entry
        dsimp only at entry
        split at entry
        · next same =>
          cases entry
          rw [same]
          exact own
        · next apart =>
          have owned := indexed.owned node pubkey entry
          rw [kept]
          · exact owned
          · rintro rfl
            exact apart (free node owned)
      · intro node owner owned
        by_cases same : syntheticPubkey node = reportedKey info.num user.publicKey bus
        · rw [same, own] at owned
          cases owned
          exact (reportedKey_synthetic same.symm).symm
        · rw [kept same] at owned
          exact indexed.synthetic node owner owned

/-- An advert leaves the number of every other node with its record, as it was. -/
theorem nodeAdvert_others (indexed : Indexed bus) (info : NodeInfo) (isFullSync : Bool) (now : Nat)
    (apart : node ≠ info.num) :
    (recordNodeAdvert info isFullSync now bus).2.nodeNumIndex node = bus.nodeNumIndex node ∧
      ∀ pubkey, bus.nodeNumIndex node = some pubkey →
        (recordNodeAdvert info isFullSync now bus).2.get? pubkey = bus.get? pubkey := by
  cases known : info.user with
  | none =>
      have unrecorded : (recordNodeAdvert info isFullSync now bus).2 = bus := by
        simp only [recordNodeAdvert, known]
      rw [unrecorded]
      exact ⟨rfl, fun _ _ => rfl⟩
  | some user =>
      obtain ⟨index, others, -⟩ := recordNodeAdvert_lookups info known isFullSync now bus
      refine ⟨by rw [index]; exact if_neg apart, fun pubkey entry => ?_⟩
      apply others
      rintro rfl
      have owned := indexed.owned node _ entry
      exact apart (reportedKey_free indexed info.num user.publicKey node owned)

/-! ## Every sequence of inputs -/

theorem indexed_step {input : BusInput × Nat} (indexed : Indexed bus)
    (stepped : BusStep input bus bus') : Indexed bus' := by
  obtain ⟨input, now⟩ := input
  cases input with
  | nodeAdvert info isFullSync =>
      cases stepped
      exact indexed_nodeAdvert indexed info isFullSync now
  | other op => exact indexed_other stepped.1 indexed stepped.2

/-- After any inputs the index gives every number a record of its own, and an advert leaves the
numbers it does not carry alone. -/
theorem index_injective (run : Reaches BusStep (fun _ _ => True) AdvertBus.new bus) :
    (∀ node pubkey, bus.nodeNumIndex node = some pubkey →
      ∃ record, bus.get? pubkey = some record ∧ record.nodeNum = some node) ∧
    (∀ node other pubkey, bus.nodeNumIndex node = some pubkey →
      bus.nodeNumIndex other = some pubkey → node = other) ∧
    ∀ info isFullSync now node, node ≠ info.num →
      (recordNodeAdvert info isFullSync now bus).2.nodeNumIndex node = bus.nodeNumIndex node ∧
        ∀ pubkey, bus.nodeNumIndex node = some pubkey →
          (recordNodeAdvert info isFullSync now bus).2.get? pubkey = bus.get? pubkey := by
  have indexed : Indexed bus := by
    apply run.invariant (I := Indexed)
    · constructor
      · intro node pubkey entry
        cases entry
      · intro node owner owned
        cases owned
    · intro input t u indexed _ stepped
      exact indexed_step indexed stepped
  refine ⟨fun node pubkey entry => ?_, fun node other pubkey => indexed.injective,
    fun info isFullSync now node => nodeAdvert_others indexed info isFullSync now⟩
  exact Option.bind_eq_some_iff.mp (indexed.owned node pubkey entry)

def announcement (num : NodeNum) : NodeInfo :=
  ⟨num, some ⟨"", "", 0, List.replicate 32 7⟩, none, false⟩

def announced (num : NodeNum) (bus : AdvertBus) : AdvertBus :=
  (recordNodeAdvert (announcement num) true 1000 bus).2

/-- Two nodes announce one key. -/
theorem index_injective_announced :
    (announced 2 (announced 1 .new)).nodeNumIndex 1 ≠
      (announced 2 (announced 1 .new)).nodeNumIndex 2 := by
  have announces (num : NodeNum) (bus : AdvertBus) :
      BusStep (.nodeAdvert (announcement num) true, 1000) bus (announced num bus) := rfl
  have run : Reaches BusStep (fun _ _ => True) AdvertBus.new (announced 2 (announced 1 .new)) :=
    .step (.step .start trivial (announces 1 _)) trivial (announces 2 _)
  have apart := (index_injective run).2.1
  have known : ((announced 2 (announced 1 .new)).nodeNumIndex 1).isSome := by decide +kernel
  obtain ⟨pubkey, first⟩ := Option.isSome_iff_exists.mp known
  intro same
  have numbers := apart 1 2 pubkey first (same ▸ first)
  simp at numbers

end SupplyDrop.Proof.NodeIndex
