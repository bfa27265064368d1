import Mathlib
import SupplyDrop.Proof.AdvertCap

namespace SupplyDrop.Proof.ProtectionMerge
open Library Plugin Plugin.AdvertBus AdvertRecords

/-! ## The protection of one record -/

structure Protection where
  flag : Bool
  protectedAt : Option Nat
  unprotectedAt : Option Nat
  generation : Nat

namespace Protection

def fresh : Protection := ⟨false, none, none, 0⟩

def effective (p : Protection) (now : Nat) : Bool := p.flag || p.protectedAt.any (withinGrace · now)

def protect (now : Nat) (p : Protection) : Protection := ⟨true, some now, none, p.generation + 1⟩

def release (now : Nat) (p : Protection) : Protection := ⟨false, none, some now, p.generation + 1⟩

def revert (p : Protection) : Protection := ⟨false, none, p.unprotectedAt, p.generation + 1⟩

def setFlag (alreadyExisted merged : Bool) (now : Nat) (p : Protection) : Protection :=
  if merged = p.flag then p
  else if alreadyExisted then { p with flag := merged, generation := p.generation + 1 }
  else if merged then p.protect now
  else p.release now

def sync (alreadyExisted incoming : Bool) (now : Nat) (p : Protection) : Protection :=
  p.setFlag alreadyExisted (mergeProtectedBit incoming p.protectedAt p.unprotectedAt now) now

/-- All that an operation can do to the protection of a record, one that is not there being
unprotected. -/
inductive Change (now : Nat) : Protection → Protection → Prop where
  | keep (p : Protection) : Change now p p
  | protect (p : Protection) : Change now p (p.protect now)
  | release (p : Protection) : Change now p (p.release now)
  | revert (p : Protection) : Change now p p.revert
  | sync (p : Protection) (alreadyExisted incoming : Bool) :
      Change now p (p.sync alreadyExisted incoming now)
  | forget {p : Protection} (lost : p.effective now = false) : Change now p fresh

/-- A stamp of the record that still counts at `now`. -/
def Recent (p : Protection) (now : Nat) : Prop :=
  ∃ t, (p.protectedAt = some t ∨ p.unprotectedAt = some t) ∧ withinGrace t now

/-- What the operations keep: one stamp at most, and no flag while a record counts as just
unprotected. -/
structure Settled (p : Protection) (clock : Nat) : Prop where
  alone : p.protectedAt = none ∨ p.unprotectedAt = none
  past : ∀ t, p.protectedAt = some t ∨ p.unprotectedAt = some t → t ≤ clock
  lowered : p.flag → ∀ t, p.unprotectedAt = some t → t + protectGraceSecs ≤ clock

variable {p p' : Protection} {now clock : Nat} {incoming alreadyExisted : Bool}

theorem withinGrace_iff {t : Nat} (past : t ≤ now) :
    withinGrace t now ↔ now < t + protectGraceSecs := by
  unfold withinGrace absDiff
  rw [decide_eq_true_iff]
  omega

theorem merge_protected {t : Nat} (stamp : p.protectedAt = some t) (alone : p.unprotectedAt = none)
    (live : withinGrace t now) (incoming : Bool) :
    mergeProtectedBit incoming p.protectedAt p.unprotectedAt now = true := by
  simp [mergeProtectedBit, stamp, alone, Option.filter, live]

theorem merge_unprotected {t : Nat} (stamp : p.unprotectedAt = some t) (alone : p.protectedAt = none)
    (live : withinGrace t now) (incoming : Bool) :
    mergeProtectedBit incoming p.protectedAt p.unprotectedAt now = false := by
  simp [mergeProtectedBit, stamp, alone, Option.filter, live]

theorem merge_past (past : ¬ Recent p now) (incoming : Bool) :
    mergeProtectedBit incoming p.protectedAt p.unprotectedAt now = incoming := by
  have lapsed (stamp : Option Nat) (own : ∀ t, stamp = some t →
      p.protectedAt = some t ∨ p.unprotectedAt = some t) :
      stamp.filter (withinGrace · now) = none := by
    rw [Option.filter_eq_none_iff]
    intro t eq live
    exact past ⟨t, own t eq, live⟩
  simp only [mergeProtectedBit, lapsed p.protectedAt fun t => .inl,
    lapsed p.unprotectedAt fun t => .inr]

theorem setFlag_flag (p : Protection) (alreadyExisted merged : Bool) (now : Nat) :
    (p.setFlag alreadyExisted merged now).flag = merged := by
  unfold setFlag
  split
  · next same => exact same.symm
  split
  · rfl
  split
  · next raised => exact raised.symm
  · next lowered => exact ((Bool.not_eq_true merged).mp lowered).symm

theorem Settled.later (settled : p.Settled clock) (later : clock ≤ now) : p.Settled now :=
  ⟨settled.alone, fun t stamp => (settled.past t stamp).trans later,
    fun flag t stamp => (settled.lowered flag t stamp).trans later⟩

theorem fresh_settled (clock : Nat) : fresh.Settled clock :=
  ⟨.inl rfl, by simp [fresh], by simp [fresh]⟩

theorem protect_settled (p : Protection) (now : Nat) : (p.protect now).Settled now :=
  ⟨.inr rfl, by simp [protect], by simp [protect]⟩

theorem release_settled (p : Protection) (now : Nat) : (p.release now).Settled now :=
  ⟨.inl rfl, by simp [release], nofun⟩

theorem revert_settled (settled : p.Settled now) : p.revert.Settled now := by
  refine ⟨.inl rfl, fun t stamp => ?_, by simp [revert]⟩
  rcases stamp with none_ | stamp
  · cases none_
  · exact settled.past t (.inr stamp)

theorem sync_settled (settled : p.Settled now) :
    (p.sync alreadyExisted incoming now).Settled now := by
  unfold sync setFlag
  split
  · exact settled
  split
  · refine ⟨settled.alone, settled.past, fun raised t stamp => ?_⟩
    by_contra early
    have held : p.unprotectedAt = some t := stamp
    have live : withinGrace t now :=
      (withinGrace_iff (settled.past t (.inr held))).mpr (not_le.mp early)
    have alone : p.protectedAt = none := settled.alone.resolve_right (by simp [held])
    rw [merge_unprotected held alone live] at raised
    cases raised
  split
  · exact protect_settled p now
  · exact release_settled p now

theorem Change.settled (change : Change now p p') (settled : p.Settled now) : p'.Settled now := by
  cases change with
  | keep => exact settled
  | protect => exact protect_settled p now
  | release => exact release_settled p now
  | revert => exact revert_settled settled
  | sync => exact sync_settled settled
  | forget => exact fresh_settled now

theorem Change.grows (change : Change now p p') (differ : p'.flag ≠ p.flag) :
    p.generation < p'.generation := by
  cases change with
  | keep => exact absurd rfl differ
  | protect => exact Nat.lt_succ_self _
  | release => exact Nat.lt_succ_self _
  | revert => exact Nat.lt_succ_self _
  | sync alreadyExisted incoming =>
      unfold Protection.sync at differ ⊢
      rw [setFlag_flag] at differ
      rw [setFlag, if_neg differ]
      split
      · exact Nat.lt_succ_self _
      · split <;> exact Nat.lt_succ_self _
  | forget lost =>
      have lowered : p.flag = false := (Bool.or_eq_false_iff.mp lost).1
      exact absurd lowered.symm differ

theorem sync_recent (settled : p.Settled now) (recent : p.Recent now) :
    (p.sync alreadyExisted incoming now).effective now = p.effective now := by
  obtain ⟨t, stamp | stamp, live⟩ := recent
  · have alone : p.unprotectedAt = none := settled.alone.resolve_left (by simp [stamp])
    have before : p.effective now = true := by simp [effective, stamp, live]
    have after : (p.sync alreadyExisted incoming now).flag = true := by
      rw [sync, setFlag_flag]
      exact merge_protected stamp alone live incoming
    rw [before, effective, after, Bool.true_or]
  · have alone : p.protectedAt = none := settled.alone.resolve_right (by simp [stamp])
    have lowered : p.flag = false := by
      by_contra raised
      have early := settled.lowered (by simpa using raised) t stamp
      have late := (withinGrace_iff (settled.past t (.inr stamp))).mp live
      omega
    have same : p.sync alreadyExisted incoming now = p := by
      rw [sync, merge_unprotected stamp alone live]
      exact if_pos lowered.symm
    rw [same]

theorem sync_past (past : ¬ p.Recent now) :
    (p.sync alreadyExisted incoming now).effective now = incoming := by
  have lapsed : p.protectedAt.any (withinGrace · now) = false := by
    rw [Option.any_eq_false]
    intro t stamp
    simpa using fun live => past ⟨t, .inl stamp, live⟩
  rw [sync, merge_past past, setFlag]
  split
  · next same => rw [effective, lapsed, Bool.or_false, same]
  split
  · rw [effective, lapsed, Bool.or_false]
  split
  · next raised => simp [effective, protect, raised]
  · next lowered => simp [effective, release, lowered]

end Protection

/-! ## The records of the bus -/

def flagged (flags : BitVec 8) : Bool := flags &&& 1 ≠ 0

def protectionOf (record : AdvertRecord) : Protection :=
  ⟨flagged record.flags, record.protectedAt, record.unprotectedAt, record.generation⟩

def protectionAt (bus : AdvertBus) (pubkey : AdvertKey) : Protection :=
  (bus.get? pubkey).elim .fresh protectionOf

theorem flagged_raised (flags : BitVec 8) : flagged (flags ||| 1) = true := by
  rw [flagged, raised_bit]
  rfl

theorem flagged_lowered (flags : BitVec 8) : flagged (flags &&& ~~~1) = false := by
  rw [flagged, lowered_bit]
  rfl

theorem flagged_merged {rest : BitVec 8} (lowered : rest &&& 1 = 0) (merged : Bool) :
    flagged (rest ||| if merged then 1 else 0) = merged := by
  cases merged with
  | true => exact flagged_raised rest
  | false =>
      have bit : (rest ||| 0) &&& 1 = 0 := by
        rw [show rest ||| 0 = rest from BitVec.or_zero, lowered]
      exact decide_eq_false (not_not.mpr bit)

theorem protectionOf_newRecord (pubkey : AdvertKey) (now : Int) (transport : String) :
    protectionOf (newRecord pubkey now transport) = .fresh := by
  have lowered : flagged 0 = false := by decide
  simp only [protectionOf, newRecord, lowered, Protection.fresh]

theorem protectionOf_protect (now : Nat) (record : AdvertRecord) :
    protectionOf (protect now record) = (protectionOf record).protect now := by
  simp only [protectionOf, protect, Protection.protect, flagged_raised]

theorem protectionOf_release (now : Nat) (record : AdvertRecord) :
    protectionOf (release now record) = (protectionOf record).release now := by
  simp only [protectionOf, release, Protection.release, flagged_lowered]

theorem protectionOf_sync {rest : BitVec 8} (lowered : rest &&& 1 = 0)
    (alreadyExisted incoming : Bool) (now : Nat) (record : AdvertRecord) :
    protectionOf (syncProtection alreadyExisted incoming rest now record) =
      (protectionOf record).sync alreadyExisted incoming now := by
  have kept := flagged_merged lowered
    (mergeProtectedBit incoming record.protectedAt record.unprotectedAt now)
  unfold syncProtection Protection.sync Protection.setFlag
  dsimp only [protectionOf, flagged]
  split
  · next same => simp_all [flagged]
  split
  · simp_all [flagged]
  split
  · next raised => simp_all [flagged, Protection.protect]
  · next lowered => simp_all [flagged, Protection.release]

variable {bus bus' : AdvertBus} {pubkey other : AdvertKey} {now : Nat}

theorem favourited_eq (bus : AdvertBus) (pubkey : AdvertKey) (now : Nat) :
    bus.isCurrentlyFavourited pubkey now = (protectionAt bus pubkey).effective now := by
  unfold isCurrentlyFavourited protectionAt
  cases bus.get? pubkey with
  | none => rfl
  | some record => rfl

theorem protectionAt_entry {fresh : AdvertRecord} {f : AdvertRecord → AdvertRecord}
    {g : Protection → Protection} (unprotected : protectionOf fresh = .fresh)
    (follows : ∀ record, protectionOf (f record) = g (protectionOf record))
    (bus : AdvertBus) (pubkey other : AdvertKey) :
    protectionAt (bus.entry pubkey fresh f) other =
      if other = pubkey then g (protectionAt bus pubkey) else protectionAt bus other := by
  simp only [protectionAt, get?_entry]
  split
  · cases bus.get? pubkey with
    | none => simp [follows, unprotected]
    | some record => simp [follows]
  · rfl

theorem protectionAt_getMut {f : AdvertRecord → AdvertRecord} {g : Protection → Protection}
    (follows : ∀ record, protectionOf (f record) = g (protectionOf record))
    (bus : AdvertBus) (pubkey other : AdvertKey) :
    protectionAt (bus.getMut pubkey f) other =
      if other = pubkey ∧ (bus.get? pubkey).isSome then g (protectionAt bus pubkey)
      else protectionAt bus other := by
  simp only [protectionAt, get?_getMut]
  by_cases same : other = pubkey
  · subst same
    cases bus.get? other with
    | none => simp
    | some record => simp [follows]
  · simp [same]

/-! ## What an operation does -/

/-- The record a device sync is about, and the flag it carries. -/
def syncOf : Op → Option (AdvertKey × Bool)
  | .upsertContact pubkey _ _ _ _ _ flags _ _ _ _ _ => some (pubkey, flags &&& 1 ≠ 0)
  | .upsertMeshtasticNode pubkey _ _ _ _ _ isFavorite _ => isFavorite.map fun flag => (pubkey, flag)
  | _ => none

def Changes (now : Nat) (bus bus' : AdvertBus) : Prop :=
  ∀ pubkey, Protection.Change now (protectionAt bus pubkey) (protectionAt bus' pubkey)

/-- All that an operation other than a clear can do is related by `R`. -/
structure Covers (now : Nat) (R : Protection → Protection → Prop) : Prop where
  keep (p : Protection) : R p p
  protect (p : Protection) : R p (p.protect now)
  release (p : Protection) : R p (p.release now)
  revert (p : Protection) : R p p.revert
  sync (p : Protection) (alreadyExisted incoming : Bool) : R p (p.sync alreadyExisted incoming now)

theorem change_covers (now : Nat) : Covers now (Protection.Change now) :=
  ⟨.keep, .protect, .release, .revert, .sync⟩

def Relates (R : Protection → Protection → Prop) (bus bus' : AdvertBus) : Prop :=
  ∀ pubkey, R (protectionAt bus pubkey) (protectionAt bus' pubkey)

section Relates
variable {R : Protection → Protection → Prop}

theorem Relates.of_eq (keep : ∀ p, R p p)
    (same : ∀ pubkey, protectionAt bus' pubkey = protectionAt bus pubkey) :
    Relates R bus bus' := by
  intro pubkey
  rw [same]
  exact keep _

theorem Relates.entry {fresh : AdvertRecord} {f : AdvertRecord → AdvertRecord}
    {g : Protection → Protection} (keep : ∀ p, R p p) (unprotected : protectionOf fresh = .fresh)
    (follows : ∀ record, protectionOf (f record) = g (protectionOf record))
    (change : ∀ p, R p (g p)) : Relates R bus (bus.entry pubkey fresh f) := by
  intro other
  rw [protectionAt_entry unprotected follows]
  split
  · next same =>
    rw [same]
    exact change _
  · exact keep _

theorem Relates.getMut {f : AdvertRecord → AdvertRecord} {g : Protection → Protection}
    (keep : ∀ p, R p p) (follows : ∀ record, protectionOf (f record) = g (protectionOf record))
    (change : ∀ p, R p (g p)) : Relates R bus (bus.getMut pubkey f) := by
  intro other
  rw [protectionAt_getMut follows]
  split
  · next same =>
    rw [same.1]
    exact change _
  · exact keep _

variable (covers : Covers now R)
include covers

theorem protect_relates (bus : AdvertBus) (pubkey : AdvertKey) :
    Relates R bus (bus.getMut pubkey (protect now)) :=
  .getMut covers.keep (protectionOf_protect now) covers.protect

theorem release_relates (bus : AdvertBus) (pubkey : AdvertKey) :
    Relates R bus (bus.getMut pubkey (release now)) :=
  .getMut covers.keep (protectionOf_release now) covers.release

theorem unprotect_relates (pubkey : AdvertKey) (bus : AdvertBus) :
    Relates R bus (bus.unprotect pubkey now).2 := by
  unfold unprotect
  split
  · exact .of_eq covers.keep fun _ => rfl
  · split
    · exact release_relates covers bus pubkey
    · exact .of_eq covers.keep fun _ => rfl

theorem revert_relates (pubkey : AdvertKey) (expectedGeneration : Nat) (bus : AdvertBus) :
    Relates R bus (bus.revertProtect pubkey expectedGeneration) := by
  refine .getMut (g := fun p => if p.generation = expectedGeneration then p.revert else p)
    covers.keep (fun record => ?_) fun p => ?_
  · have generation : (protectionOf record).generation = record.generation := rfl
    rw [generation]
    split
    · simp only [protectionOf, Protection.revert, flagged_lowered]
    · rfl
  · split
    · exact covers.revert p
    · exact covers.keep p

/-- A mark that makes room releases one record and protects another. -/
theorem decision_relates {protectedCap : Nat} {excludePrefixes : List (BitVec 48)}
    {outcome : FavouriteOutcome}
    (made : AdvertCap.Decision bus pubkey protectedCap excludePrefixes now outcome bus') :
    Relates R bus bus' := by
  cases made with
  | noRecordYet => exact .of_eq covers.keep fun _ => rfl
  | alreadyProtected => exact .of_eq covers.keep fun _ => rfl
  | ineligible => exact .of_eq covers.keep fun _ => rfl
  | capReached => exact .of_eq covers.keep fun _ => rfl
  | room => exact protect_relates covers bus pubkey
  | @evict record before victim snapshot positive found full oldest =>
      intro other
      have released := release_relates covers bus victim other
      have marked := protect_relates covers (bus.getMut victim (release now)) pubkey other
      by_cases same : other = pubkey
      · have kept : protectionAt (bus.getMut victim (release now)) other =
            protectionAt bus other := by
          rw [protectionAt_getMut (protectionOf_release now), if_neg]
          rintro ⟨eq, -⟩
          exact oldest.1.apart (eq.symm.trans same)
        rwa [kept] at marked
      · rw [protectionAt_getMut (protectionOf_protect now), if_neg fun h => same h.1]
        exact released

theorem mark_relates {isEligible : BitVec 8 → Option Bool} {protectedCap : Nat}
    {excludePrefixes : List (BitVec 48)} {hash : RecordOrder} {outcome : FavouriteOutcome}
    (marked : decideFavourite pubkey isEligible protectedCap excludePrefixes hash now bus =
      some (outcome, bus')) : Relates R bus bus' := by
  obtain ⟨outcome', bus'', eq, made⟩ := AdvertCap.decideFavourite_decides bus pubkey isEligible
    protectedCap excludePrefixes hash now
  rw [eq] at marked
  cases marked
  exact decision_relates covers made

end Relates

/-- What a sync does to the record it is about. -/
theorem sync_ran {op : Op} {incoming : Bool} (synced : syncOf op = some (pubkey, incoming))
    (ran : bus.run (op, now) = some bus') (other : AdvertKey) : protectionAt bus' other =
      if other = pubkey then
        (protectionAt bus pubkey).sync (bus.get? pubkey).isSome incoming now
      else protectionAt bus other := by
  cases op with
  | upsertContact key name advType gpsLat gpsLon deviceLastSeen flags lastAdvertTimestamp lastmod
      outPath outPathLen transport =>
      simp only [syncOf, Option.some.injEq, Prod.mk.injEq] at synced
      obtain ⟨rfl, rfl⟩ := synced
      cases ran
      refine protectionAt_entry (protectionOf_newRecord key now transport) (fun record => ?_) bus key
        other
      exact protectionOf_sync (lowered_bit flags) _ _ now _
  | upsertMeshtasticNode key nodeNum name role gpsLat gpsLon isFavorite transport =>
      cases isFavorite with
      | none => cases synced
      | some flag =>
          simp only [syncOf, Option.map_some, Option.some.injEq, Prod.mk.injEq] at synced
          obtain ⟨rfl, rfl⟩ := synced
          cases ran
          have lowered : (0 : BitVec 8) &&& 1 = 0 := by decide
          refine protectionAt_entry (protectionOf_newRecord key now transport) (fun record => ?_) _
            key other
          exact protectionOf_sync lowered _ _ now _
  | _ => cases synced

theorem run_relates {R : Protection → Protection → Prop} (covers : Covers now R) {op : Op}
    (stays : op ≠ .clearUnprotected) (ran : bus.run (op, now) = some bus') :
    Relates R bus bus' := by
  have seen {before : AdvertBus} {key : AdvertKey} {fresh : AdvertRecord}
      {f : AdvertRecord → AdvertRecord} (unprotected : protectionOf fresh = .fresh)
      (follows : ∀ record, protectionOf (f record) = protectionOf record) :
      Relates R before (before.entry key fresh f) :=
    .entry (g := id) covers.keep unprotected follows covers.keep
  cases synced : syncOf op with
  | some reported =>
      have after := sync_ran synced ran
      intro other
      rw [after]
      split
      · next same =>
        rw [same]
        exact covers.sync _ _ _
      · exact covers.keep _
  | none =>
      cases op with
      | upsert key name advType gpsLat gpsLon transport =>
          cases ran
          exact seen (protectionOf_newRecord key now transport) fun _ => rfl
      | upsertWithTimestamp key name advType gpsLat gpsLon deviceLastSeen transport =>
          cases ran
          exact seen (protectionOf_newRecord key now transport) fun _ => rfl
      | upsertShort key transport =>
          cases ran
          exact seen (protectionOf_newRecord key now transport) fun _ => rfl
      | upsertContact => cases synced
      | upsertMeshtasticNode key nodeNum name role gpsLat gpsLon isFavorite transport =>
          cases isFavorite with
          | none =>
              cases ran
              have kept (other : AdvertKey) : protectionAt (upsertMeshtasticNode key nodeNum name
                  role gpsLat gpsLon none transport now bus).2 other =
                    if other = key then id (protectionAt bus key) else protectionAt bus other :=
                protectionAt_entry (protectionOf_newRecord key now transport) (fun _ => rfl) _ key
                  other
              apply Relates.of_eq covers.keep
              intro other
              rw [kept]
              split
              · next same => rw [same, id]
              · rfl
          | some flag => cases synced
      | markFavouriteIfEligible =>
          obtain ⟨⟨outcome, _⟩, marked, rfl⟩ := Option.map_eq_some_iff.mp ran
          exact mark_relates covers marked
      | markFavouriteIfEligibleByNodeNum nodeNum =>
          obtain ⟨⟨outcome, _⟩, marked, rfl⟩ := Option.map_eq_some_iff.mp ran
          unfold markFavouriteIfEligibleByNodeNum at marked
          split at marked
          · cases marked
            exact .of_eq covers.keep fun _ => rfl
          · exact mark_relates covers marked
      | unprotect key =>
          cases ran
          exact unprotect_relates covers key bus
      | revertProtect key expectedGeneration =>
          cases ran
          exact revert_relates covers key expectedGeneration bus
      | revertProtectByNodeNum nodeNum expectedGeneration =>
          cases ran
          unfold revertProtectByNodeNum
          split
          · exact .of_eq covers.keep fun _ => rfl
          · exact revert_relates covers _ expectedGeneration bus
      | clearUnprotected => exact absurd rfl stays

theorem clear_changes (bus : AdvertBus) (now : Nat) :
    Changes now bus (bus.clearUnprotected now).2 := by
  intro pubkey
  unfold protectionAt
  rw [get?_clear]
  cases bus.get? pubkey with
  | none => exact .keep _
  | some record =>
      rw [Option.filter]
      split
      · exact .keep _
      · next lost => exact .forget ((Bool.not_eq_true _).mp lost)

theorem run_changes {op : Op} (ran : bus.run (op, now) = some bus') : Changes now bus bus' := by
  by_cases cleared : op = .clearUnprotected
  · subst cleared
    cases ran
    exact clear_changes bus now
  · exact run_relates (change_covers now) cleared ran

/-! ## Every sequence of operations -/

def Settled (bus : AdvertBus) (clock : Nat) : Prop :=
  ∀ pubkey, (protectionAt bus pubkey).Settled clock

theorem settled_run {op : Op} {clock : Nat} (settled : Settled bus clock) (later : clock ≤ now)
    (ran : bus.run (op, now) = some bus') : Settled bus' now :=
  fun pubkey => (run_changes ran pubkey).settled ((settled pubkey).later later)

theorem settled_runs (ops : List (Op × Nat)) {clock now : Nat} (settled : Settled bus clock)
    (ordered : (ops.map Prod.snd).Pairwise (· ≤ ·)) (later : ∀ entry ∈ ops, clock ≤ entry.2)
    (last : clock ≤ now) (early : ∀ entry ∈ ops, entry.2 ≤ now)
    (ran : ops.foldlM run bus = some bus') : Settled bus' now := by
  induction ops generalizing bus clock with
  | nil =>
      cases ran
      exact fun pubkey => (settled pubkey).later last
  | cons entry rest ih =>
      obtain ⟨next, stepped, ran⟩ := Option.bind_eq_some_iff.mp ran
      rw [List.map_cons, List.pairwise_cons] at ordered
      have settled' := settled_run settled (later entry List.mem_cons_self) stepped
      apply ih settled' ordered.2 ?_ (early entry List.mem_cons_self) ?_ ran
      · intro e mem
        exact ordered.1 e.2 (List.mem_map_of_mem mem)
      · intro e mem
        exact early e (List.mem_cons_of_mem _ mem)

/-- A stamp of the record is less than the grace window old. -/
def JustStamped (bus : AdvertBus) (pubkey : AdvertKey) (now : Nat) : Prop :=
  ∃ record t, bus.get? pubkey = some record ∧
    (record.protectedAt = some t ∨ record.unprotectedAt = some t) ∧ now < t + protectGraceSecs

def flagAt (bus : AdvertBus) (pubkey : AdvertKey) : Bool :=
  (bus.get? pubkey).any fun record => record.flags &&& 1 ≠ 0

def generationAt (bus : AdvertBus) (pubkey : AdvertKey) : Nat :=
  ((bus.get? pubkey).map (·.generation)).getD 0

/-- What one operation may do to the protection of the records, a record that is not there having
no flag. -/
structure Merges (op : Op) (now : Nat) (bus bus' : AdvertBus) : Prop where
  recent : ∀ pubkey incoming, syncOf op = some (pubkey, incoming) → JustStamped bus pubkey now →
    bus'.isCurrentlyFavourited pubkey now = bus.isCurrentlyFavourited pubkey now
  past : ∀ pubkey incoming, syncOf op = some (pubkey, incoming) → ¬ JustStamped bus pubkey now →
    bus'.isCurrentlyFavourited pubkey now = incoming
  stamps : ∀ pubkey record, bus'.get? pubkey = some record →
    record.protectedAt = none ∨ record.unprotectedAt = none
  generation : ∀ pubkey, flagAt bus' pubkey ≠ flagAt bus pubkey →
    generationAt bus pubkey < generationAt bus' pubkey

theorem flagAt_eq (bus : AdvertBus) (pubkey : AdvertKey) :
    flagAt bus pubkey = (protectionAt bus pubkey).flag := by
  unfold flagAt protectionAt
  cases bus.get? pubkey <;> rfl

theorem generationAt_eq (bus : AdvertBus) (pubkey : AdvertKey) :
    generationAt bus pubkey = (protectionAt bus pubkey).generation := by
  unfold generationAt protectionAt
  cases bus.get? pubkey <;> rfl

theorem justStamped_iff (settled : Settled bus now) :
    JustStamped bus pubkey now ↔ (protectionAt bus pubkey).Recent now := by
  have past := (settled pubkey).past
  unfold JustStamped Protection.Recent
  unfold protectionAt at past ⊢
  cases found : bus.get? pubkey with
  | none => simp [Protection.fresh]
  | some record =>
      rw [found] at past
      constructor
      · rintro ⟨r, t, eq, stamp, live⟩
        cases eq
        exact ⟨t, stamp, (Protection.withinGrace_iff (past t stamp)).mpr live⟩
      · rintro ⟨t, stamp, live⟩
        exact ⟨record, t, rfl, stamp, (Protection.withinGrace_iff (past t stamp)).mp live⟩

theorem merges {op : Op} (settled : Settled bus now) (ran : bus.run (op, now) = some bus') :
    Merges op now bus bus' where
  recent := by
    intro pubkey incoming synced stamped
    have after := sync_ran synced ran
    have recent := (justStamped_iff settled).mp stamped
    rw [favourited_eq, favourited_eq, after, if_pos rfl]
    exact Protection.sync_recent (settled pubkey) recent
  past := by
    intro pubkey incoming synced stamped
    have after := sync_ran synced ran
    have past := fun recent => stamped ((justStamped_iff settled).mpr recent)
    rw [favourited_eq, after, if_pos rfl]
    exact Protection.sync_past past
  stamps := by
    intro pubkey record found
    have alone := (settled_run settled (le_refl now) ran pubkey).alone
    rwa [protectionAt, found] at alone
  generation := by
    intro pubkey differ
    rw [flagAt_eq, flagAt_eq] at differ
    rw [generationAt_eq, generationAt_eq]
    exact (run_changes ran pubkey).grows differ

/-- However protects, unprotects, reverts, adverts and syncs follow each other, as long as the clock
is not set back. -/
theorem protection_merged (ops : List (Op × Nat)) (op : Op) (now : Nat)
    (ordered : ((ops ++ [(op, now)]).map Prod.snd).Pairwise (· ≤ ·)) :
    ∃ bus bus', ops.foldlM run AdvertBus.new = some bus ∧ bus.run (op, now) = some bus' ∧
      Merges op now bus bus' := by
  obtain ⟨bus, ran⟩ := AdvertCap.runs_ok ops AdvertBus.new
  obtain ⟨bus', stepped⟩ := AdvertCap.run_ok bus op now
  rw [List.map_append, List.pairwise_append] at ordered
  obtain ⟨before, -, early⟩ := ordered
  have start : Settled AdvertBus.new 0 := fun pubkey => Protection.fresh_settled 0
  have settled : Settled bus now := by
    apply settled_runs ops start before
      (fun _ _ => Nat.zero_le _) (Nat.zero_le now) ?_ ran
    intro entry mem
    exact early entry.2 (List.mem_map_of_mem mem) now (by simp)
  exact ⟨bus, bus', ran, stepped, merges settled stepped⟩

/-- A contact is synced as a favourite, taken off, and synced again before the window is over. -/
def resynced : List (Op × Nat) := [
  (.upsertContact 1 "ada" 1 0 0 0 1 0 0 [] 0 "meshcore", 1000),
  (.unprotect 1, 2000)]

theorem protection_merged_ada : ∃ bus bus', resynced.foldlM run AdvertBus.new = some bus ∧
    bus.run (.upsertContact 1 "ada" 1 0 0 0 1 0 0 [] 0 "meshcore", 2299) = some bus' ∧
    Merges (.upsertContact 1 "ada" 1 0 0 0 1 0 0 [] 0 "meshcore") 2299 bus bus' :=
  protection_merged resynced _ 2299 (by decide)

end SupplyDrop.Proof.ProtectionMerge
