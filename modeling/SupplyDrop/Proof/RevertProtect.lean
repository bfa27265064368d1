import Mathlib
import SupplyDrop.Library.Run
import SupplyDrop.Proof.ProtectFrame
import SupplyDrop.Proof.ProtectionMerge

namespace SupplyDrop.Proof.RevertProtect
open Library Plugin Plugin.AdvertBus AdvertRecords ProtectionMerge ProtectFrame

/-! ## What becomes of a record -/

/-- What the radio's reports, the marks and the sysop do to a record that is there. -/
inductive Later where
  | sync (flags : BitVec 8)
  | protect
  | unprotect

def after (record : AdvertRecord) : Later × Nat → AdvertRecord
  | (.sync flags, now) => syncProtection true (flagged flags) (flags &&& ~~~1) now record
  | (.protect, now) =>
      if isEffectivelyProtected record now then record else AdvertBus.protect now record
  | (.unprotect, now) =>
      if isEffectivelyProtected record now then release now record else record

inductive Standing where
  | unprotected
  -- it is not to make room for another yet
  | justProtected
  | protectedSince (t : Nat)
deriving DecidableEq

/-- All that the bus reads of the protection of a record. -/
def standing (record : AdvertRecord) (now : Nat) : Standing :=
  if isEffectivelyProtected record now then
    if record.protectedAt.any (withinGrace · now) then .justProtected
    else .protectedSince (record.protectedAt.getD 0)
  else .unprotected

theorem standing_evictable {pubkey other : AdvertKey} {transport : String}
    {excludePrefixes : List (BitVec 48)} {record : AdvertRecord} {now : Nat}
    (fits : evictable pubkey transport excludePrefixes now (other, record)) :
    standing record now = .protectedSince (record.protectedAt.getD 0) := by
  simp only [evictable, Bool.and_eq_true, Bool.not_eq_true'] at fits
  rw [standing, if_pos fits.1.1.2, if_neg ((Bool.not_eq_true _).mpr fits.2)]

/-- Whatever is done from `now` on. -/
def AlikeFrom (now : Nat) : AdvertRecord → AdvertRecord → Prop :=
  Alike after standing (fun input => now ≤ input.2) (now ≤ ·)

/-- No stamp of the record can count again. -/
structure Unstamped (record : AdvertRecord) (now : Nat) : Prop where
  protectedAt : record.protectedAt.getD 0 = 0
  unprotectedAt : ∀ t ∈ record.unprotectedAt, t + protectGraceSecs ≤ now

variable {record : AdvertRecord} {p q : Protection} {now t : Nat} {input : Later × Nat}

/-! ## Protections -/

def protectionAfter (p : Protection) : Later × Nat → Protection
  | (.sync flags, now) => p.sync true (flagged flags) now
  | (.protect, now) => if p.effective now then p else p.protect now
  | (.unprotect, now) => if p.effective now then p.release now else p

def standingOf (p : Protection) (now : Nat) : Standing :=
  if p.effective now then
    if p.protectedAt.any (withinGrace · now) then .justProtected
    else .protectedSince (p.protectedAt.getD 0)
  else .unprotected

theorem standing_eq (record : AdvertRecord) (now : Nat) :
    standing record now = standingOf (protectionOf record) now := rfl

theorem effective_eq (record : AdvertRecord) (now : Nat) :
    (protectionOf record).effective now = isEffectivelyProtected record now := rfl

theorem protectionOf_after (record : AdvertRecord) (input : Later × Nat) :
    protectionOf (after record input) = protectionAfter (protectionOf record) input := by
  obtain ⟨later, now⟩ := input
  cases later with
  | sync flags => exact protectionOf_sync (lowered_bit flags) true _ now record
  | protect =>
      rw [after, protectionAfter, effective_eq, apply_ite protectionOf, protectionOf_protect]
  | unprotect =>
      rw [after, protectionAfter, effective_eq, apply_ite protectionOf, protectionOf_release]

/-- A sync of a record that is there leaves its stamps. -/
theorem sync_existing (p : Protection) (incoming : Bool) (now : Nat) : ∃ generation,
    p.sync true incoming now =
      ⟨mergeProtectedBit incoming p.protectedAt p.unprotectedAt now, p.protectedAt,
        p.unprotectedAt, generation⟩ := by
  unfold Protection.sync Protection.setFlag
  split
  · next same => exact ⟨p.generation, by rw [same]⟩
  · exact ⟨p.generation + 1, rfl⟩

/-- What two protections have in common that no one tells apart from `now` on. -/
structure Same (now : Nat) (p q : Protection) : Prop where
  flag : p.flag = q.flag
  live : ∀ t, now ≤ t →
    p.protectedAt.any (withinGrace · t) = q.protectedAt.any (withinGrace · t)
  since : p.protectedAt.getD 0 = q.protectedAt.getD 0
  merge : ∀ incoming t, now ≤ t →
    mergeProtectedBit incoming p.protectedAt p.unprotectedAt t =
      mergeProtectedBit incoming q.protectedAt q.unprotectedAt t

theorem Same.effective (same : Same now p q) (later : now ≤ t) : p.effective t = q.effective t := by
  rw [Protection.effective, Protection.effective, same.flag, same.live t later]

theorem Same.standing (same : Same now p q) (later : now ≤ t) : standingOf p t = standingOf q t := by
  rw [standingOf, standingOf, same.effective later, same.live t later, same.since]

theorem Same.after (same : Same now p q) (later : now ≤ input.2) :
    Same now (protectionAfter p input) (protectionAfter q input) := by
  obtain ⟨op, t⟩ := input
  cases op with
  | sync flags =>
      obtain ⟨generation, eq⟩ := sync_existing p (flagged flags) t
      obtain ⟨generation', eq'⟩ := sync_existing q (flagged flags) t
      rw [protectionAfter, protectionAfter, eq, eq']
      exact ⟨same.merge _ t later, same.live, same.since, same.merge⟩
  | protect =>
      rw [protectionAfter, protectionAfter, same.effective later]
      split
      · exact same
      · exact ⟨rfl, fun _ _ => rfl, rfl, fun _ _ _ => rfl⟩
  | unprotect =>
      rw [protectionAfter, protectionAfter, same.effective later]
      split
      · exact ⟨rfl, fun _ _ => rfl, rfl, fun _ _ _ => rfl⟩
      · exact same

theorem same_bisimulation (now : Nat) :
    Bisimulation after standing (fun input => now ≤ input.2) (now ≤ ·)
      fun record other => Same now (protectionOf record) (protectionOf other) where
  sees _ _ same _ later := same.standing later
  steps record other same input later := by
    rw [protectionOf_after, protectionOf_after]
    exact same.after later

/-! ## A protect and its revert -/

theorem stale_later {t time : Nat} (stale : withinGrace t now = false) (young : t ≤ now)
    (later : now ≤ time) : withinGrace t time = false := by
  unfold withinGrace absDiff at stale ⊢
  rw [decide_eq_false_iff_not] at stale ⊢
  omega

theorem not_live (unprotected : isEffectivelyProtected record now = false)
    (unstamped : record.protectedAt.getD 0 = 0) {time : Nat} (later : now ≤ time) :
    record.protectedAt.any (withinGrace · time) = false := by
  rw [isEffectivelyProtected, Bool.or_eq_false_iff] at unprotected
  cases stamp : record.protectedAt with
  | none => rfl
  | some t =>
      rw [stamp, Option.getD_some] at unstamped
      rw [stamp, Option.any_some, unstamped] at unprotected
      rw [Option.any_some, unstamped]
      exact stale_later unprotected.2 (Nat.zero_le now) later

def undone (record : AdvertRecord) : AdvertRecord := { record with
  flags := record.flags &&& ~~~1
  protectedAt := none
  generation := record.generation + 1 }

theorem protectionOf_undone (record : AdvertRecord) :
    protectionOf (undone record) = (protectionOf record).revert := by
  simp only [protectionOf, undone, Protection.revert, flagged_lowered]

theorem undone_protect (record : AdvertRecord) (now : Nat) :
    protectionOf (undone (AdvertBus.protect now record)) =
      ⟨false, none, none, record.generation + 2⟩ := by
  rw [protectionOf_undone, protectionOf_protect]
  rfl

theorem not_recent {generation : Nat} : ¬ Protection.Recent ⟨false, none, none, generation⟩ t := by
  rintro ⟨t, stamp | stamp, -⟩ <;> cases stamp

theorem same_undone (unprotected : isEffectivelyProtected record now = false)
    (unstamped : Unstamped record now) :
    Same now (protectionOf record) (protectionOf (undone (AdvertBus.protect now record))) := by
  rw [undone_protect]
  have live {time : Nat} (later : now ≤ time) := not_live unprotected unstamped.protectedAt later
  refine ⟨(Bool.or_eq_false_iff.mp unprotected).1, fun _ later => live later,
    unstamped.protectedAt, fun incoming time later => ?_⟩
  have past : ¬ (protectionOf record).Recent time := by
    rintro ⟨t, stamp | stamp, young⟩
    · have stale := (Option.any_eq_false _ _).mp (live later) t stamp
      exact Bool.false_ne_true (stale.symm.trans young)
    · have old := unstamped.unprotectedAt t stamp
      have recent := (Protection.withinGrace_iff (by omega)).mp young
      omega
  rw [Protection.merge_past past, Protection.merge_past not_recent]

/-- A report that a record is protected, at a time when none of its stamps counts. -/
theorem standing_synced (past : ¬ p.Recent t) :
    standingOf (p.sync true true t) t = .protectedSince (p.protectedAt.getD 0) := by
  obtain ⟨generation, eq⟩ := sync_existing p true t
  have live : p.protectedAt.any (withinGrace · t) = false := by
    rw [Option.any_eq_false]
    intro stamp held
    exact (Bool.not_eq_true _).mp fun young => past ⟨stamp, .inl held, young⟩
  rw [eq, Protection.merge_past past, standingOf, Protection.effective, live]
  rfl

section Alike
variable (alike : AlikeFrom now record (undone (AdvertBus.protect now record)))
include alike

theorem synced_alike (time : Nat) (later : now ≤ time) :
    standingOf ((protectionOf record).sync true true time) time = .protectedSince 0 := by
  have seen := (alike.next (.sync 1, time) later).looks time later
  rw [standing_eq, standing_eq, protectionOf_after, protectionOf_after, undone_protect] at seen
  exact seen.trans (standing_synced not_recent)

/-- Seen when both stamps are past. -/
theorem protectedAt_of_alike : record.protectedAt.getD 0 = 0 := by
  have past : ¬ (protectionOf record).Recent
      (now + record.protectedAt.getD 0 + record.unprotectedAt.getD 0 + protectGraceSecs) := by
    rintro ⟨t, stamp | stamp, young⟩
    · rw [show record.protectedAt = some t from stamp, Option.getD_some] at young
      have recent := (Protection.withinGrace_iff (by omega)).mp young
      omega
    · rw [show record.unprotectedAt = some t from stamp, Option.getD_some] at young
      have recent := (Protection.withinGrace_iff (by omega)).mp young
      omega
  have seen := synced_alike alike (now + record.protectedAt.getD 0 +
    record.unprotectedAt.getD 0 + protectGraceSecs) (by omega)
  rw [standing_synced past] at seen
  exact Standing.protectedSince.inj seen

/-- Seen while the stamp counts. -/
theorem unprotectedAt_of_alike (unprotected : isEffectivelyProtected record now = false)
    (stamp : record.unprotectedAt = some t) : t + protectGraceSecs ≤ now := by
  by_contra young
  have later : now ≤ max t now := le_max_right t now
  have idle := not_live unprotected (protectedAt_of_alike alike) later
  have lapsed : record.protectedAt.filter (withinGrace · (max t now)) = none := by
    rw [Option.filter_eq_none_iff]
    intro stamp held young
    exact Bool.false_ne_true (((Option.any_eq_false _ _).mp idle stamp held).symm.trans young)
  have live : withinGrace t (max t now) = true := by
    have positive : 0 < protectGraceSecs := by decide
    unfold withinGrace absDiff
    rw [decide_eq_true_iff]
    omega
  have lowered : mergeProtectedBit true (protectionOf record).protectedAt
      (protectionOf record).unprotectedAt (max t now) = false := by
    change mergeProtectedBit true record.protectedAt record.unprotectedAt (max t now) = false
    rw [mergeProtectedBit, lapsed, stamp, Option.filter_some, if_pos live]
  have seen := synced_alike alike (max t now) later
  obtain ⟨generation, eq⟩ := sync_existing (protectionOf record) true (max t now)
  rw [eq, lowered, standingOf, Protection.effective, Bool.false_or,
    show (protectionOf record).protectedAt.any _ = false from idle] at seen
  cases seen

end Alike

/-- A revert at once is as if the record had not been protected exactly if no stamp can count
again. -/
theorem alike_undone_iff (unprotected : isEffectivelyProtected record now = false) :
    AlikeFrom now record (undone (AdvertBus.protect now record)) ↔ Unstamped record now :=
  ⟨fun alike => ⟨protectedAt_of_alike alike, fun _ => unprotectedAt_of_alike alike unprotected⟩,
    fun unstamped => (same_bisimulation now).alike (same_undone unprotected unstamped)⟩

/-! ## What the bus does to a record that is there -/

variable {bus bus' : AdvertBus} {pubkey : AdvertKey} {op : Op}

theorem protectionAt_of_get (found : bus.get? pubkey = some record) :
    protectionAt bus pubkey = protectionOf record := by
  rw [protectionAt, found, Option.elim_some]

theorem sync_after {flags : BitVec 8} (found : bus.get? pubkey = some record)
    (synced : syncOf op = some (pubkey, flagged flags)) (ran : bus.run (op, now) = some bus') :
    protectionAt bus' pubkey = protectionOf (after record (.sync flags, now)) := by
  rw [sync_ran synced ran, if_pos rfl, protectionAt_of_get found, found, Option.isSome_some,
    protectionOf_after, protectionAfter]

theorem unprotect_after (found : bus.get? pubkey = some record) (now : Nat) :
    (bus.unprotect pubkey now).2.get? pubkey = some (after record (.unprotect, now)) := by
  simp only [AdvertBus.unprotect, found, after]
  split
  · rw [get?_getMut, if_pos rfl, found, Option.map_some]
  · exact found

theorem mark_after (found : bus.get? pubkey = some record) {isEligible : BitVec 8 → Option Bool}
    {protectedCap : Nat} {excludePrefixes : List (BitVec 48)} {hash : RecordOrder}
    {outcome : FavouriteOutcome} {snapshot : FavouriteSnapshot}
    (marked : decideFavourite pubkey isEligible protectedCap excludePrefixes hash now bus =
      some (outcome, bus')) (shot : taken outcome = some snapshot) :
    bus'.get? pubkey = some (after record (.protect, now)) := by
  obtain ⟨before, held, unprotected, -, stored⟩ := mark_taken marked shot
  cases found.symm.trans held
  rw [stored, after, if_neg ((Bool.not_eq_true _).mpr unprotected)]

theorem revert_undone (found : bus.get? pubkey = some record) :
    (bus.revertProtect pubkey record.generation).get? pubkey = some (undone record) := by
  rw [revertProtect, get?_getMut, if_pos rfl, found, Option.map_some, if_pos rfl]
  rfl

theorem revert_stale {generation : Nat} (stale : generationAt bus pubkey ≠ generation)
    (other : AdvertKey) : (bus.revertProtect pubkey generation).get? other = bus.get? other := by
  rw [revertProtect, get?_getMut]
  split
  · next same =>
    rw [same]
    cases found : bus.get? pubkey with
    | none => rfl
    | some record =>
        rw [generationAt, found, Option.map_some, Option.getD_some] at stale
        rw [Option.map_some, if_neg stale]
  · rfl

/-! ## A revert that comes late -/

def markOf (bus : AdvertBus) : Op × Nat → Option FavouriteOutcome
  | (.markFavouriteIfEligible pubkey isEligible protectedCap excludePrefixes hash, now) =>
      (bus.markFavouriteIfEligible pubkey isEligible protectedCap excludePrefixes hash now).map
        Prod.fst
  | (.markFavouriteIfEligibleByNodeNum nodeNum isEligible protectedCap excludePrefixes hash,
      now) =>
      (bus.markFavouriteIfEligibleByNodeNum nodeNum isEligible protectedCap excludePrefixes hash
        now).map Prod.fst
  | _ => none

/-- A local protect of the record is committed. -/
def protects (pubkey : AdvertKey) (bus : AdvertBus) (entry : Op × Nat) : Bool :=
  ((markOf bus entry).bind taken).any fun snapshot => snapshot.pubkey = pubkey

/-- The radio reports the record as protected. -/
def confirms (pubkey : AdvertKey) (entry : Op × Nat) : Bool := syncOf entry.1 = some (pubkey, true)

/-- The bus, and whether the record has been protected anew or confirmed since a protect. -/
structure Scene where
  bus : AdvertBus
  superseded : Bool

def Step (pubkey : AdvertKey) (entry : Op × Nat) (s s' : Scene) : Prop :=
  s.bus.run entry = some s'.bus ∧
    s'.superseded = (s.superseded || protects pubkey s.bus entry || confirms pubkey entry)

/-- A step that does not remove the record, and that does not confirm the protect of
`generation`. -/
structure Spares (pubkey : AdvertKey) (generation : Nat) (entry : Op × Nat) (s : Scene) : Prop where
  kept : entry.1 = .clearUnprotected → s.bus.isCurrentlyFavourited pubkey entry.2
  unconfirmed : confirms pubkey entry → generationAt s.bus pubkey ≠ generation

theorem sync_generation (p : Protection) (alreadyExisted incoming : Bool) (now : Nat) :
    p.generation ≤ (p.sync alreadyExisted incoming now).generation := by
  unfold Protection.sync Protection.setFlag
  split
  · exact le_rfl
  split
  · exact Nat.le_succ _
  split <;> exact Nat.le_succ _

theorem generation_covers (now : Nat) : Covers now fun p p' => p.generation ≤ p'.generation where
  keep _ := le_rfl
  protect _ := Nat.le_succ _
  release _ := Nat.le_succ _
  revert _ := Nat.le_succ _
  sync p alreadyExisted incoming := sync_generation p alreadyExisted incoming now

theorem run_generation (kept : op = .clearUnprotected → bus.isCurrentlyFavourited pubkey now)
    (ran : bus.run (op, now) = some bus') : generationAt bus pubkey ≤ generationAt bus' pubkey := by
  rw [generationAt_eq, generationAt_eq]
  by_cases cleared : op = .clearUnprotected
  · have held := kept cleared
    subst cleared
    cases ran
    simp only [protectionAt, get?_clear]
    cases found : bus.get? pubkey with
    | none => exact le_rfl
    | some record =>
        rw [AdvertCap.favourited_eq found] at held
        rw [Option.filter_some, if_pos held]
  · exact run_relates (generation_covers now) cleared ran pubkey

theorem mark_generation {key : AdvertKey} {isEligible : BitVec 8 → Option Bool}
    {protectedCap : Nat} {excludePrefixes : List (BitVec 48)} {hash : RecordOrder}
    (again : (((decideFavourite key isEligible protectedCap excludePrefixes hash now bus).map
      Prod.fst).bind taken).any fun snapshot => snapshot.pubkey = pubkey)
    (ran : (decideFavourite key isEligible protectedCap excludePrefixes hash now bus).map Prod.snd =
      some bus') : generationAt bus pubkey < generationAt bus' pubkey := by
  obtain ⟨⟨outcome, _⟩, marked, rfl⟩ := Option.map_eq_some_iff.mp ran
  rw [marked, Option.map_some, Option.bind_some] at again
  cases shot : taken outcome with
  | none =>
      rw [shot] at again
      cases again
  | some snapshot =>
      obtain ⟨record, found, -, rfl, stored⟩ := mark_taken marked shot
      rw [shot, Option.any_some, decide_eq_true_iff] at again
      have own : key = pubkey := again
      subst own
      rw [generationAt, generationAt, found, stored]
      exact Nat.lt_succ_self _

theorem protects_generation (again : protects pubkey bus (op, now))
    (ran : bus.run (op, now) = some bus') : generationAt bus pubkey < generationAt bus' pubkey := by
  cases op with
  | markFavouriteIfEligible => exact mark_generation again ran
  | markFavouriteIfEligibleByNodeNum nodeNum =>
      simp only [protects, markOf, run, markFavouriteIfEligibleByNodeNum] at again ran
      cases owner : bus.nodeNumIndex nodeNum with
      | none =>
          rw [owner] at again
          cases again
      | some key =>
          rw [owner] at again ran
          exact mark_generation again ran
  | _ => cases again

/-- The generation never comes back to that of a protect which has been superseded. -/
structure Ahead (pubkey : AdvertKey) (generation : Nat) (s : Scene) : Prop where
  reached : generation ≤ generationAt s.bus pubkey
  passed : s.superseded → generation < generationAt s.bus pubkey

theorem ahead_step {generation : Nat} {entry : Op × Nat} {s s' : Scene}
    (ahead : Ahead pubkey generation s) (spares : Spares pubkey generation entry s)
    (stepped : Step pubkey entry s s') : Ahead pubkey generation s' := by
  obtain ⟨ran, superseded⟩ := stepped
  have grows := run_generation spares.kept ran
  refine ⟨ahead.reached.trans grows, fun late => ?_⟩
  rw [superseded, Bool.or_eq_true, Bool.or_eq_true] at late
  rcases late with (earlier | again) | confirmed
  · exact (ahead.passed earlier).trans_le grows
  · exact ahead.reached.trans_lt (protects_generation again ran)
  · have apart := spares.unconfirmed confirmed
    have reached := ahead.reached
    omega

theorem ahead_reached {generation : Nat} {s s' : Scene} (ahead : Ahead pubkey generation s)
    (run : Reaches (Step pubkey) (Spares pubkey generation) s s') : Ahead pubkey generation s' :=
  run.invariant ahead fun _ _ _ => ahead_step

/-- The protect that `marked` commits, and its revert. At once it leaves no trace exactly if no
stamp of the record could count again; later it changes nothing once it is superseded, if the
record was not removed and the protect itself was not confirmed. -/
theorem revert_protect_iff (bus : AdvertBus) (pubkey : AdvertKey)
    (isEligible : BitVec 8 → Option Bool) (protectedCap : Nat)
    (excludePrefixes : List (BitVec 48)) (hash : RecordOrder) (now : Nat)
    (outcome : FavouriteOutcome) (bus' : AdvertBus)
    (marked : bus.markFavouriteIfEligible pubkey isEligible protectedCap excludePrefixes hash now =
      some (outcome, bus'))
    (snapshot : FavouriteSnapshot) (shot : taken outcome = some snapshot) :
    (∃ before reverted, bus.get? pubkey = some before ∧
      (bus'.revertProtect pubkey snapshot.generation).get? pubkey = some reverted ∧
      (AlikeFrom now before reverted ↔ Unstamped before now)) ∧
    ∀ s, Reaches (Step pubkey) (Spares pubkey snapshot.generation) ⟨bus', false⟩ s →
      s.superseded → ∀ other,
        (s.bus.revertProtect pubkey snapshot.generation).get? other = s.bus.get? other := by
  obtain ⟨record, found, unprotected, rfl, stored⟩ := mark_taken marked shot
  constructor
  · exact ⟨record, _, found, revert_undone stored, alike_undone_iff unprotected⟩
  · intro s run late other
    have start : Ahead pubkey (protect now record).generation ⟨bus', false⟩ := by
      refine ⟨?_, nofun⟩
      rw [generationAt, stored]
      exact le_rfl
    have passed := (ahead_reached start run).passed late
    exact revert_stale passed.ne' other

def markChat (pubkey : AdvertKey) (now : Nat) (bus : AdvertBus) :
    Option (FavouriteOutcome × AdvertBus) :=
  bus.markFavouriteIfEligible pubkey (fun advType => some (advType = 1)) 20 [] .same now

/-- A contact as the radio reports it. -/
def report (flags : BitVec 8) : Op := .upsertContact 1 "ada" 1 0 0 0 flags 0 0 [] 0 "meshcore"

theorem revert_protect_iff_ada : ∃ bus outcome bus' snapshot,
    [(report 0, 1000)].foldlM run AdvertBus.new = some bus ∧
    markChat 1 2000 bus = some (outcome, bus') ∧ taken outcome = some snapshot ∧
    (∃ before reverted, bus.get? 1 = some before ∧
      (bus'.revertProtect 1 snapshot.generation).get? 1 = some reverted ∧
      (AlikeFrom 2000 before reverted ↔ Unstamped before 2000)) ∧
    ∀ s, Reaches (Step 1) (Spares 1 snapshot.generation) ⟨bus', false⟩ s → s.superseded →
      ∀ other, (s.bus.revertProtect 1 snapshot.generation).get? other = s.bus.get? other := by
  have protects : (([(report 0, 1000)].foldlM run AdvertBus.new).bind fun bus =>
      (markChat 1 2000 bus).bind fun marked => taken marked.1).isSome := by decide +kernel
  obtain ⟨snapshot, protects⟩ := Option.isSome_iff_exists.mp protects
  obtain ⟨bus, ran, protects⟩ := Option.bind_eq_some_iff.mp protects
  obtain ⟨⟨outcome, bus'⟩, marked, shot⟩ := Option.bind_eq_some_iff.mp protects
  exact ⟨bus, outcome, bus', snapshot, ran, marked, shot,
    revert_protect_iff bus 1 _ 20 [] .same 2000 outcome bus' marked snapshot shot⟩

/-- A mark, what is done before it is reverted, and the revert. -/
def markAndRevert (now : Nat) (between : List (Op × Nat)) (bus : AdvertBus) : Option AdvertBus :=
  (markChat 1 now bus).bind fun marked => (taken marked.1).bind fun snapshot =>
    (between.foldlM run marked.2).map (·.revertProtect 1 snapshot.generation)

/-- A contact is taken off, and a protect that is reverted lets the next report bring it back; and a
protect that the radio has confirmed is reverted. -/
theorem revert_protect_fails :
    (([(report 1, 1000), (.unprotect 1, 2000)].foldlM run AdvertBus.new).bind fun bus =>
      ((bus.run (report 1, 2200)).map (·.isCurrentlyFavourited 1 2200))) = some false ∧
    (([(report 1, 1000), (.unprotect 1, 2000)].foldlM run AdvertBus.new).bind fun bus =>
      (markAndRevert 2100 [] bus).bind fun bus =>
        (bus.run (report 1, 2200)).map (·.isCurrentlyFavourited 1 2200)) = some true ∧
    (([(report 0, 1000)].foldlM run AdvertBus.new).bind fun bus =>
      (markAndRevert 2000 [(report 1, 2100)] bus).map (·.isCurrentlyFavourited 1 2200)) =
        some false := by
  decide +kernel

end SupplyDrop.Proof.RevertProtect
