import Mathlib
import SupplyDrop.Proof.AdvertRecords

namespace SupplyDrop.Proof.AdvertCap
open Library Plugin Plugin.AdvertBus AdvertRecords

/-! ## Records -/

theorem protect_protected (now time : Nat) (record : AdvertRecord) :
    isEffectivelyProtected (protect now record) time = true := by
  simp only [isEffectivelyProtected, protect, raised_bit]
  rfl

theorem release_unprotected (now time : Nat) (record : AdvertRecord) :
    isEffectivelyProtected (release now record) time = false := by
  simp only [isEffectivelyProtected, release, lowered_bit]
  rfl

/-! ## The bus -/

variable {bus bus' : AdvertBus} {pubkey victim other : AdvertKey} {record before : AdvertRecord}
  {isEligible : BitVec 8 → Option Bool} {protectedCap : Nat}
  {excludePrefixes : List (BitVec 48)} {hash : RecordOrder} {now : Nat} {transport : String}
  {outcome : FavouriteOutcome}

theorem protectedCount_getMut (f : AdvertRecord → AdvertRecord)
    (found : bus.get? pubkey = some record) (transport : String) (now : Nat) :
    (bus.getMut pubkey f).protectedCount transport now +
        (if record.transport = transport ∧ isEffectivelyProtected record now then 1 else 0) =
      bus.protectedCount transport now +
        (if (f record).transport = transport ∧ isEffectivelyProtected (f record) now then 1
          else 0) := by
  have held : bus.records.get? pubkey = some (pubkey, record) :=
    KeyedTable.mem_entries.mp (mem_entries.mpr found)
  have counted := KeyedTable.countP_modify (fun e => (e.1, f e.2)) (fun _ => rfl)
    (fun e => e.2.transport = transport && isEffectivelyProtected e.2 now) held
  simpa [protectedCount, getMut] using counted

theorem favourited_eq (found : bus.get? pubkey = some record) (now : Nat) :
    bus.isCurrentlyFavourited pubkey now = isEffectivelyProtected record now := by
  simp [isCurrentlyFavourited, found]

theorem favourited_congr (same : bus'.get? pubkey = bus.get? pubkey) (now : Nat) :
    bus'.isCurrentlyFavourited pubkey now = bus.isCurrentlyFavourited pubkey now := by
  simp [isCurrentlyFavourited, same]

/-! ## What a mark decides -/

/-- A record that may make room for `pubkey`. -/
structure Evictable (bus : AdvertBus) (pubkey : AdvertKey) (transport : String)
    (excludePrefixes : List (BitVec 48)) (now : Nat) (other : AdvertKey) (record : AdvertRecord) :
    Prop where
  held : bus.get? other = some record
  apart : other ≠ pubkey
  sameTransport : record.transport = transport
  protectedNow : isEffectivelyProtected record now
  idle : prefix6 other ∉ excludePrefixes
  settled : ∀ t, record.protectedAt = some t → ¬ withinGrace t now

theorem mem_candidates :
    (other, record) ∈ (hash.order bus.records.entries).filter
        (evictable pubkey transport excludePrefixes now) ↔
      Evictable bus pubkey transport excludePrefixes now other record := by
  rw [List.mem_filter, (hash.perm _).mem_iff, mem_entries]
  constructor
  · rintro ⟨held, fits⟩
    simp only [evictable, Bool.and_eq_true, decide_eq_true_eq, Bool.not_eq_true',
      List.contains_eq_mem, decide_eq_false_iff_not, Option.any_eq_false] at fits
    obtain ⟨⟨⟨⟨apart, same⟩, protectedNow⟩, idle⟩, settled⟩ := fits
    exact ⟨held, apart, same, protectedNow, idle, fun t eq => by simp [settled t eq]⟩
  · intro h
    have settled : (record.protectedAt.any fun t => withinGrace t now) = false := by
      rw [Option.any_eq_false]
      intro t eq
      simpa using h.settled t eq
    simp [evictable, h.held, h.apart, h.sameTransport, h.protectedNow, h.idle, settled]

/-- The record to make room with: none has been protected for longer, one of which it is not known
having been so longest. -/
def Oldest (bus : AdvertBus) (pubkey : AdvertKey) (transport : String)
    (excludePrefixes : List (BitVec 48)) (now : Nat) (victim : AdvertKey)
    (before : AdvertRecord) : Prop :=
  Evictable bus pubkey transport excludePrefixes now victim before ∧
    ∀ other record, Evictable bus pubkey transport excludePrefixes now other record →
      before.protectedAt.getD 0 ≤ record.protectedAt.getD 0

/-- All that a mark can do to the bus. -/
inductive Decision (bus : AdvertBus) (pubkey : AdvertKey) (protectedCap : Nat)
    (excludePrefixes : List (BitVec 48)) (now : Nat) : FavouriteOutcome → AdvertBus → Prop where
  | noRecordYet : Decision bus pubkey protectedCap excludePrefixes now .noRecordYet bus
  | alreadyProtected : Decision bus pubkey protectedCap excludePrefixes now .alreadyProtected bus
  | ineligible : Decision bus pubkey protectedCap excludePrefixes now .ineligible bus
  | capReached : Decision bus pubkey protectedCap excludePrefixes now .capReached bus
  | room {record : AdvertRecord} {snapshot : FavouriteSnapshot}
      (found : bus.get? pubkey = some record)
      (under : bus.protectedCount record.transport now < protectedCap) :
      Decision bus pubkey protectedCap excludePrefixes now (.nowProtected snapshot)
        (bus.getMut pubkey (protect now))
  | evict {record before : AdvertRecord} {victim : AdvertKey} {snapshot : FavouriteSnapshot}
      (positive : 0 < protectedCap)
      (found : bus.get? pubkey = some record)
      (full : protectedCap ≤ bus.protectedCount record.transport now)
      (oldest : Oldest bus pubkey record.transport excludePrefixes now victim before) :
      Decision bus pubkey protectedCap excludePrefixes now
        (.protectedWithEviction snapshot victim before)
        ((bus.getMut victim (release now)).getMut pubkey (protect now))

theorem protectRecord_ok (found : bus.get? pubkey = some record) (now : Nat) :
    ∃ snapshot, bus.protectRecord pubkey now =
      some (snapshot, bus.getMut pubkey (protect now)) := by
  simp [protectRecord, found]

/-- No `expect` panics, and one of the decisions is made. -/
theorem decideFavourite_decides (bus : AdvertBus) (pubkey : AdvertKey)
    (isEligible : BitVec 8 → Option Bool) (protectedCap : Nat)
    (excludePrefixes : List (BitVec 48)) (hash : RecordOrder) (now : Nat) :
    ∃ outcome bus',
      decideFavourite pubkey isEligible protectedCap excludePrefixes hash now bus =
        some (outcome, bus') ∧
      Decision bus pubkey protectedCap excludePrefixes now outcome bus' := by
  unfold decideFavourite
  cases found : bus.get? pubkey with
  | none => exact ⟨_, _, rfl, .noRecordYet⟩
  | some record =>
      dsimp only
      split
      · exact ⟨_, _, rfl, .noRecordYet⟩
      split
      · exact ⟨_, _, rfl, .alreadyProtected⟩
      split
      · exact ⟨_, _, rfl, .ineligible⟩
      split
      · exact ⟨_, _, rfl, .capReached⟩
      next positive =>
      split
      · next under =>
        obtain ⟨snapshot, stored⟩ := protectRecord_ok found now
        exact ⟨_, _, by rw [stored]; rfl, .room found under⟩
      next full =>
      split
      · exact ⟨_, _, rfl, .capReached⟩
      next victim before chosen =>
      have fits := mem_candidates.mp (List.argmin_mem chosen)
      have oldest : Oldest bus pubkey record.transport excludePrefixes now victim before :=
        ⟨fits, fun other r h => List.le_of_mem_argmin (mem_candidates.mpr h) chosen⟩
      have released : bus.unprotect victim now =
          (some before, bus.getMut victim (release now)) := by
        simp [unprotect, fits.held, fits.protectedNow]
      have still : (bus.getMut victim (release now)).get? pubkey = some record := by
        rw [get?_getMut, if_neg fits.apart.symm, found]
      obtain ⟨snapshot, stored⟩ := protectRecord_ok still now
      exact ⟨_, _, by rw [released]; simp only [stored]; rfl,
        .evict (Nat.pos_of_ne_zero positive) found (not_lt.mp full) oldest⟩

/-! ## The cap -/

def Unprotects (bus bus' : AdvertBus) (now : Nat) (other : AdvertKey) : Prop :=
  bus.isCurrentlyFavourited other now = true ∧ bus'.isCurrentlyFavourited other now = false

/-- What a mark of `pubkey` may do. -/
structure Capped (bus : AdvertBus) (pubkey : AdvertKey) (protectedCap : Nat)
    (excludePrefixes : List (BitVec 48)) (now : Nat) (outcome : FavouriteOutcome)
    (bus' : AdvertBus) : Prop where
  count : ∀ transport, bus'.protectedCount transport now ≤
    max protectedCap (bus.protectedCount transport now)
  zero : protectedCap = 0 → bus' = bus
  reported : ∀ victim, Unprotects bus bus' now victim ↔
    ∃ snapshot before, outcome = .protectedWithEviction snapshot victim before
  evicted : ∀ victim, Unprotects bus bus' now victim →
    (∃ record before, bus.get? pubkey = some record ∧
      protectedCap ≤ bus.protectedCount record.transport now ∧
      Oldest bus pubkey record.transport excludePrefixes now victim before) ∧
    ∀ other, Unprotects bus bus' now other → other = victim
  others : ∀ other, other ≠ pubkey → ¬ Unprotects bus bus' now other →
    bus'.get? other = bus.get? other

theorem not_unprotects_self (bus : AdvertBus) (now : Nat) (other : AdvertKey) :
    ¬ Unprotects bus bus now other := by
  rintro ⟨held, lost⟩
  rw [held] at lost
  cases lost

theorem Capped.unchanged (silent : ∀ snapshot victim before,
    outcome ≠ .protectedWithEviction snapshot victim before) :
    Capped bus pubkey protectedCap excludePrefixes now outcome bus where
  count transport := le_max_right _ _
  zero _ := rfl
  reported victim := by
    simp only [not_unprotects_self, false_iff, not_exists]
    exact fun snapshot before => silent snapshot victim before
  evicted victim gone := absurd gone (not_unprotects_self bus now victim)
  others other _ _ := rfl

/-- To protect one record more adds one to the count of its transport. -/
theorem protectedCount_protect_le (found : bus.get? pubkey = some record) (transport : String)
    (now : Nat) :
    (bus.getMut pubkey (protect now)).protectedCount transport now ≤
      bus.protectedCount transport now + if record.transport = transport then 1 else 0 := by
  have counted := protectedCount_getMut (protect now) found transport now
  have kept : (protect now record).transport = record.transport := rfl
  simp only [kept, protect_protected, and_true] at counted
  omega

theorem protectedCount_release (found : bus.get? pubkey = some record)
    (held : isEffectivelyProtected record now) (transport : String) :
    (bus.getMut pubkey (release now)).protectedCount transport now +
        (if record.transport = transport then 1 else 0) =
      bus.protectedCount transport now := by
  have counted := protectedCount_getMut (release now) found transport now
  simpa [release_unprotected, held] using counted

theorem favourited_protect (found : bus.get? pubkey = some record) :
    (bus.getMut pubkey (protect now)).isCurrentlyFavourited pubkey now = true := by
  simp [isCurrentlyFavourited, get?_getMut, found, protect_protected]

theorem Capped.room {snapshot : FavouriteSnapshot} (found : bus.get? pubkey = some record)
    (under : bus.protectedCount record.transport now < protectedCap) :
    Capped bus pubkey protectedCap excludePrefixes now (.nowProtected snapshot)
      (bus.getMut pubkey (protect now)) := by
  have kept : ∀ other, ¬ Unprotects bus (bus.getMut pubkey (protect now)) now other := by
    rintro other ⟨held, lost⟩
    by_cases same : other = pubkey
    · rw [same, favourited_protect found] at lost
      cases lost
    · have aside : (bus.getMut pubkey (protect now)).get? other = bus.get? other := by
        rw [get?_getMut, if_neg same]
      rw [favourited_congr aside, held] at lost
      cases lost
  constructor
  case count =>
    intro transport
    have grows := protectedCount_protect_le found transport now
    split at grows
    · next same =>
      rw [same] at under
      omega
    · omega
  case zero =>
    intro none
    omega
  case reported =>
    intro victim
    simp [kept victim]
  case evicted =>
    intro victim gone
    exact absurd gone (kept victim)
  case others =>
    intro other apart _
    rw [get?_getMut, if_neg apart]

theorem Capped.evict {snapshot : FavouriteSnapshot} (positive : 0 < protectedCap)
    (found : bus.get? pubkey = some record)
    (full : protectedCap ≤ bus.protectedCount record.transport now)
    (oldest : Oldest bus pubkey record.transport excludePrefixes now victim before) :
    Capped bus pubkey protectedCap excludePrefixes now
      (.protectedWithEviction snapshot victim before)
      ((bus.getMut victim (release now)).getMut pubkey (protect now)) := by
  have fits := oldest.1
  have still : (bus.getMut victim (release now)).get? pubkey = some record := by
    rw [get?_getMut, if_neg fits.apart.symm, found]
  have aside (other : AdvertKey) (apart : other ≠ pubkey) (spared : other ≠ victim) :
      ((bus.getMut victim (release now)).getMut pubkey (protect now)).get? other =
        bus.get? other := by
    rw [get?_getMut, if_neg apart, get?_getMut, if_neg spared]
  have gone : ∀ other,
      Unprotects bus ((bus.getMut victim (release now)).getMut pubkey (protect now)) now other ↔
        other = victim := by
    intro other
    constructor
    · rintro ⟨held, lost⟩
      by_contra spared
      by_cases same : other = pubkey
      · rw [same, favourited_protect still] at lost
        cases lost
      · rw [favourited_congr (aside other same spared), held] at lost
        cases lost
    · rintro rfl
      refine ⟨(favourited_eq fits.held now).trans fits.protectedNow, ?_⟩
      simp [isCurrentlyFavourited, get?_getMut, fits.apart, fits.held, release_unprotected]
  constructor
  case count =>
    intro transport
    have grows := protectedCount_protect_le still transport now
    have shrinks := protectedCount_release fits.held fits.protectedNow transport
    rw [fits.sameTransport] at shrinks
    omega
  case zero =>
    intro none
    omega
  case reported =>
    intro other
    rw [gone]
    constructor
    · rintro rfl
      exact ⟨snapshot, before, rfl⟩
    · rintro ⟨_, _, eq⟩
      cases eq
      rfl
  case evicted =>
    intro other lost
    rw [(gone other).mp lost]
    refine ⟨⟨record, before, found, full, oldest⟩, ?_⟩
    intro another lost
    exact (gone another).mp lost
  case others =>
    intro other apart kept
    exact aside other apart fun eq => kept ((gone other).mpr eq)

theorem Decision.capped
    (made : Decision bus pubkey protectedCap excludePrefixes now outcome bus') :
    Capped bus pubkey protectedCap excludePrefixes now outcome bus' := by
  cases made with
  | noRecordYet => exact .unchanged (by simp)
  | alreadyProtected => exact .unchanged (by simp)
  | ineligible => exact .unchanged (by simp)
  | capReached => exact .unchanged (by simp)
  | room found under => exact .room found under
  | evict positive found full oldest => exact .evict positive found full oldest

/-! ## Every sequence of operations -/

theorem run_ok (bus : AdvertBus) (op : Op) (now : Nat) :
    ∃ bus', bus.run (op, now) = some bus' := by
  have marked (pubkey : AdvertKey) (isEligible : BitVec 8 → Option Bool) (protectedCap : Nat)
      (excludePrefixes : List (BitVec 48)) (hash : RecordOrder) :
      ∃ bus', (decideFavourite pubkey isEligible protectedCap excludePrefixes hash now bus).map
        Prod.snd = some bus' := by
    obtain ⟨outcome, bus', eq, -⟩ := decideFavourite_decides bus pubkey isEligible protectedCap
      excludePrefixes hash now
    exact ⟨bus', by rw [eq]; rfl⟩
  cases op with
  | markFavouriteIfEligible => exact marked _ _ _ _ _
  | markFavouriteIfEligibleByNodeNum nodeNum =>
      simp only [run, markFavouriteIfEligibleByNodeNum]
      split
      · exact ⟨bus, rfl⟩
      · exact marked _ _ _ _ _
  | _ => exact ⟨_, rfl⟩

theorem runs_ok (ops : List (Op × Nat)) (bus : AdvertBus) :
    ∃ bus', ops.foldlM run bus = some bus' := by
  induction ops generalizing bus with
  | nil => exact ⟨bus, rfl⟩
  | cons op rest ih =>
      obtain ⟨next, ran⟩ := run_ok bus op.1 op.2
      obtain ⟨last, runs⟩ := ih next
      exact ⟨last, by rw [List.foldlM_cons, ran]; exact runs⟩

/-- No operation panics, and after any of them a mark keeps to the cap. -/
theorem favourites_capped (ops : List (Op × Nat)) :
    ∃ bus, ops.foldlM run AdvertBus.new = some bus ∧
      ∀ isEligible protectedCap excludePrefixes hash now,
        (∀ pubkey, ∃ outcome bus',
          bus.markFavouriteIfEligible pubkey isEligible protectedCap excludePrefixes hash now =
            some (outcome, bus') ∧
          Capped bus pubkey protectedCap excludePrefixes now outcome bus') ∧
        ∀ nodeNum, ∃ outcome bus',
          bus.markFavouriteIfEligibleByNodeNum nodeNum isEligible protectedCap excludePrefixes
            hash now = some (outcome, bus') ∧
          match bus.nodeNumIndex nodeNum with
          | none => outcome = .noRecordYet ∧ bus' = bus
          | some pubkey => Capped bus pubkey protectedCap excludePrefixes now outcome bus' := by
  obtain ⟨bus, ran⟩ := runs_ok ops AdvertBus.new
  refine ⟨bus, ran, fun isEligible protectedCap excludePrefixes hash now => ⟨?_, ?_⟩⟩
  · intro pubkey
    obtain ⟨outcome, bus', eq, made⟩ := decideFavourite_decides bus pubkey isEligible
      protectedCap excludePrefixes hash now
    exact ⟨outcome, bus', eq, made.capped⟩
  · intro nodeNum
    unfold markFavouriteIfEligibleByNodeNum
    cases bus.nodeNumIndex nodeNum with
    | none => exact ⟨.noRecordYet, bus, rfl, rfl, rfl⟩
    | some pubkey =>
        obtain ⟨outcome, bus', eq, made⟩ := decideFavourite_decides bus pubkey isEligible
          protectedCap excludePrefixes hash now
        exact ⟨outcome, bus', eq, made.capped⟩

/-- Two contacts synced as favourites, a third marked when both are past their grace. -/
example :
    (([
      (.upsertContact 1 "ada" 1 0 0 0 1 0 0 [] 0 "meshcore", 2000),
      (.upsertContact 2 "bob" 1 0 0 0 1 0 0 [] 0 "meshcore", 1000),
      (.upsertContact 3 "cyd" 1 0 0 0 0 0 0 [] 0 "meshcore", 2500)] : List (Op × Nat)).foldlM
        run AdvertBus.new >>= fun bus =>
      (bus.markFavouriteIfEligible 3 (fun advType => some (advType = 1)) 2 [] .same 3000).map
        fun marked => (marked.2.isCurrentlyFavourited 1 3000,
          marked.2.isCurrentlyFavourited 2 3000, marked.2.isCurrentlyFavourited 3 3000)) =
      some (true, false, true) := by decide +kernel

end SupplyDrop.Proof.AdvertCap
