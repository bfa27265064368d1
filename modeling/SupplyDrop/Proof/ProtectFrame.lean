import Mathlib
import SupplyDrop.Mesh.Contacts
import SupplyDrop.Proof.AdvertCap

namespace SupplyDrop.Proof.ProtectFrame
open Plugin Plugin.AdvertBus Mesh.Contacts AdvertRecords

variable {bus bus' : AdvertBus} {c : Contact} {record : AdvertRecord} {pubkey : AdvertKey}
  {isEligible : BitVec 8 → Option Bool} {protectedCap : Nat}
  {excludePrefixes : List (BitVec 48)} {hash : RecordOrder} {outcome : FavouriteOutcome}
  {snapshot : FavouriteSnapshot} {now time : Nat}

/-! ## Contacts -/

/-- What the types of a contact's fields allow. -/
structure WellTyped (c : Contact) : Prop where
  path : c.outPath.length = maxPathSize
  lat : -2147483648 ≤ c.gpsLat ∧ c.gpsLat ≤ 2147483647
  lon : -2147483648 ≤ c.gpsLon ∧ c.gpsLon ≤ 2147483647

theorem asI32_degrees {gps : Int} (range : -2147483648 ≤ gps ∧ gps ≤ 2147483647) :
    asI32 (degrees gps * 1000000) = gps := by
  have exact_ : degrees gps * 1000000 = gps := div_mul_cancel₀ _ (by norm_num)
  rw [asI32, exact_, Rat.num_intCast, Rat.den_intCast, Nat.cast_one, Int.tdiv_one]
  omega

/-! ## What the record of a contact keeps of it -/

/-- The time of its last advert, as the bus takes it. -/
def takenTimestamp (c : Contact) (now : Nat) : BitVec 32 :=
  BitVec.ofInt 32 (plausibleTimestamp c.lastAdvertTimestamp.toNat now)

structure Carries (c : Contact) (now : Nat) (record : AdvertRecord) : Prop where
  name : record.name = c.name
  advType : record.advType = c.advType
  lat : record.lat = degrees c.gpsLat
  lon : record.lon = degrees c.gpsLon
  lastAdvertTimestamp : record.lastAdvertTimestamp = takenTimestamp c now
  lastmod : record.lastmod = c.lastmod
  outPath : record.outPath = c.outPath
  outPathLen : record.outPathLen = c.outPathLen
  -- whatever the lowest bit is
  flags : record.flags ||| 1 = c.flags ||| 1

theorem raise_raised (flags : BitVec 8) : flags ||| 1 ||| 1 = flags ||| 1 := by
  rw [BitVec.or_assoc, BitVec.or_self]

theorem raise_lowered (flags : BitVec 8) : flags &&& ~~~1 ||| 1 = flags ||| 1 := by
  ext i
  simp only [BitVec.getElem_or, BitVec.getElem_and, BitVec.getElem_not]
  cases flags[i] <;> cases (1 : BitVec 8)[i] <;> rfl

theorem carries_protect (carries : Carries c now record) (time : Nat) :
    Carries c now (protect time record) :=
  { carries with flags := (raise_raised record.flags).trans carries.flags }

theorem carries_release (carries : Carries c now record) (time : Nat) :
    Carries c now (release time record) :=
  { carries with flags := (raise_lowered record.flags).trans carries.flags }

theorem carries_reverted (carries : Carries c now record) :
    Carries c now { record with
      flags := record.flags &&& ~~~1
      protectedAt := none
      generation := record.generation + 1 } :=
  { carries with flags := (raise_lowered record.flags).trans carries.flags }

theorem raise_merged (flags : BitVec 8) (bit : Bool) :
    (flags &&& ~~~1 ||| if bit then 1 else 0) ||| 1 = flags ||| 1 := by
  cases bit with
  | true => exact (raise_raised _).trans (raise_lowered flags)
  | false => exact (congrArg (· ||| 1) BitVec.or_zero).trans (raise_lowered flags)

/-- A sync touches what is about protection alone. -/
theorem syncProtection_only (alreadyExisted incoming : Bool) (rest : BitVec 8) (now : Nat)
    (record : AdvertRecord) :
    ∃ (bit : Bool) (protectedAt unprotectedAt : Option Nat) (generation : Nat),
      syncProtection alreadyExisted incoming rest now record = { record with
        flags := rest ||| if bit then 1 else 0
        protectedAt, unprotectedAt, generation } := by
  unfold syncProtection
  dsimp only
  split
  · exact ⟨_, _, _, _, rfl⟩
  split
  · exact ⟨_, _, _, _, rfl⟩
  split
  · exact ⟨true, _, _, _, rfl⟩
  · exact ⟨false, _, _, _, rfl⟩

def Carried (c : Contact) (now : Nat) (bus : AdvertBus) : Prop :=
  ∀ record, bus.get? c.pubkey = some record → Carries c now record

theorem ingest_carried (c : Contact) (now : Nat) (bus : AdvertBus) :
    Carried c now (ingest c now bus) := by
  intro record found
  rw [ingest, upsertContact, get?_entry, if_pos rfl] at found
  obtain ⟨bit, protectedAt, unprotectedAt, generation, eq⟩ := syncProtection_only _ _ _ _ _
  rw [eq] at found
  cases found
  exact ⟨rfl, rfl, rfl, rfl, rfl, rfl, rfl, rfl, raise_merged c.flags bit⟩

/-! ## Operations on other keys -/

/-- The contact or node an operation brings news of. -/
def ingested : Op → Option AdvertKey
  | .upsert pubkey .. | .upsertWithTimestamp pubkey .. | .upsertShort pubkey ..
  | .upsertContact pubkey .. | .upsertMeshtasticNode pubkey .. => some pubkey
  | _ => none

theorem carried_entry (carried : Carried c now bus) (apart : pubkey ≠ c.pubkey)
    (fresh : AdvertRecord) (f : AdvertRecord → AdvertRecord) :
    Carried c now (bus.entry pubkey fresh f) := by
  intro record found
  rw [get?_entry, if_neg apart.symm] at found
  exact carried record found

theorem carried_getMut {f : AdvertRecord → AdvertRecord} (carried : Carried c now bus)
    (keeps : ∀ record, Carries c now record → Carries c now (f record)) (pubkey : AdvertKey) :
    Carried c now (bus.getMut pubkey f) := by
  intro record found
  rw [get?_getMut] at found
  split at found
  · obtain ⟨before, held, rfl⟩ := Option.map_eq_some_iff.mp found
    exact keeps before (carried before held)
  · exact carried record found

theorem carried_protect (carried : Carried c now bus) (pubkey : AdvertKey) (time : Nat) :
    Carried c now (bus.getMut pubkey (protect time)) :=
  carried_getMut carried (fun _ carries => carries_protect carries time) pubkey

theorem carried_release (carried : Carried c now bus) (pubkey : AdvertKey) (time : Nat) :
    Carried c now (bus.getMut pubkey (release time)) :=
  carried_getMut carried (fun _ carries => carries_release carries time) pubkey

theorem carried_revert (carried : Carried c now bus) (pubkey : AdvertKey) (generation : Nat) :
    Carried c now (bus.revertProtect pubkey generation) := by
  refine carried_getMut carried (fun record carries => ?_) pubkey
  split
  · exact carries_reverted carries
  · exact carries

theorem carried_unprotect (carried : Carried c now bus) (pubkey : AdvertKey) (time : Nat) :
    Carried c now (bus.unprotect pubkey time).2 := by
  unfold unprotect
  split
  · exact carried
  split
  · exact carried_release carried pubkey time
  · exact carried

theorem carried_clear (carried : Carried c now bus) (time : Nat) :
    Carried c now (bus.clearUnprotected time).2 := by
  intro record found
  rw [get?_clear] at found
  exact carried record (Option.eq_some_of_filter_eq_some found)

/-- A mark of another contact may release this one to make room. -/
theorem carried_mark {bus' : AdvertBus} (carried : Carried c now bus)
    (marked : decideFavourite pubkey isEligible protectedCap excludePrefixes hash time bus =
      some (outcome, bus')) : Carried c now bus' := by
  obtain ⟨outcome', bus'', eq, made⟩ := AdvertCap.decideFavourite_decides bus pubkey isEligible
    protectedCap excludePrefixes hash time
  rw [eq] at marked
  cases marked
  cases made with
  | noRecordYet => exact carried
  | alreadyProtected => exact carried
  | ineligible => exact carried
  | capReached => exact carried
  | room => exact carried_protect carried pubkey time
  | evict => exact carried_protect (carried_release carried _ time) pubkey time

theorem carried_run {op : Op} (carried : Carried c now bus)
    (aside : ingested op ≠ some c.pubkey) (ran : bus.run (op, time) = some bus') :
    Carried c now bus' := by
  cases op with
  | upsert key | upsertWithTimestamp key | upsertShort key | upsertContact key =>
      cases ran
      exact carried_entry carried (fun eq => aside (congrArg some eq)) _ _
  | upsertMeshtasticNode key nodeNum =>
      cases ran
      refine carried_entry (fun record found => ?_) (fun eq => aside (congrArg some eq)) _ _
      exact carried record found
  | markFavouriteIfEligible =>
      obtain ⟨⟨outcome, _⟩, marked, rfl⟩ := Option.map_eq_some_iff.mp ran
      exact carried_mark carried marked
  | markFavouriteIfEligibleByNodeNum nodeNum =>
      obtain ⟨⟨outcome, _⟩, marked, rfl⟩ := Option.map_eq_some_iff.mp ran
      unfold markFavouriteIfEligibleByNodeNum at marked
      split at marked
      · cases marked
        exact carried
      · exact carried_mark carried marked
  | unprotect key =>
      cases ran
      exact carried_unprotect carried key time
  | revertProtect key generation =>
      cases ran
      exact carried_revert carried key generation
  | revertProtectByNodeNum nodeNum generation =>
      cases ran
      unfold revertProtectByNodeNum
      split
      · exact carried
      · exact carried_revert carried _ generation
  | clearUnprotected =>
      cases ran
      exact carried_clear carried time

theorem carried_runs (ops : List (Op × Nat)) (carried : Carried c now bus)
    (aside : ∀ entry ∈ ops, ingested entry.1 ≠ some c.pubkey)
    (ran : ops.foldlM run bus = some bus') : Carried c now bus' := by
  induction ops generalizing bus with
  | nil =>
      cases ran
      exact carried
  | cons entry rest ih =>
      obtain ⟨next, stepped, ran⟩ := Option.bind_eq_some_iff.mp ran
      have kept := carried_run carried (aside entry List.mem_cons_self) stepped
      exact ih kept (fun e mem => aside e (List.mem_cons_of_mem entry mem)) ran

/-! ## The frame -/

/-- What a mark that protects hands to the transport. -/
def taken : FavouriteOutcome → Option FavouriteSnapshot
  | .nowProtected snapshot | .protectedWithEviction snapshot _ _ => some snapshot
  | _ => none

def snapshotOf (pubkey : AdvertKey) (time : Nat) (record : AdvertRecord) : FavouriteSnapshot where
  pubkey
  name := record.name
  advType := record.advType
  lat := record.lat
  lon := record.lon
  lastAdvertTimestamp := record.lastAdvertTimestamp
  lastmod := record.lastmod
  outPath := record.outPath
  outPathLen := record.outPathLen
  flags := record.flags
  protectedAt := time
  generation := record.generation

theorem protectRecord_eq (found : bus.get? pubkey = some record) (time : Nat) :
    bus.protectRecord pubkey time =
      some (snapshotOf pubkey time (protect time record), bus.getMut pubkey (protect time)) := by
  rw [protectRecord, found]
  rfl

theorem mark_taken
    (marked : decideFavourite pubkey isEligible protectedCap excludePrefixes hash time bus =
      some (outcome, bus')) (shot : taken outcome = some snapshot) :
    ∃ record, bus.get? pubkey = some record ∧ isEffectivelyProtected record time = false ∧
      snapshot = snapshotOf pubkey time (protect time record) ∧
      bus'.get? pubkey = some (protect time record) := by
  unfold decideFavourite at marked
  cases found : bus.get? pubkey with
  | none =>
      rw [found] at marked
      cases marked
      cases shot
  | some record =>
      rw [found] at marked
      dsimp only at marked
      split at marked
      · cases marked
        cases shot
      split at marked
      · cases marked
        cases shot
      next unprotected =>
      refine ⟨record, rfl, (Bool.not_eq_true _).mp unprotected, ?_⟩
      split at marked
      · cases marked
        cases shot
      split at marked
      · cases marked
        cases shot
      split at marked
      · rw [protectRecord_eq found] at marked
        cases marked
        cases shot
        exact ⟨rfl, by rw [get?_getMut, if_pos rfl, found, Option.map_some]⟩
      split at marked
      · cases marked
        cases shot
      next victim before chosen =>
      have fits := AdvertCap.mem_candidates.mp (List.argmin_mem chosen)
      have released : bus.unprotect victim time =
          (some before, bus.getMut victim (release time)) := by
        simp [unprotect, fits.held, fits.protectedNow]
      have still : (bus.getMut victim (release time)).get? pubkey = some record := by
        rw [get?_getMut, if_neg fits.apart.symm, found]
      rw [released] at marked
      dsimp only at marked
      rw [protectRecord_eq still] at marked
      cases marked
      cases shot
      exact ⟨rfl, by rw [get?_getMut, if_pos rfl, still, Option.map_some]⟩

theorem frame_of_carries (typed : WellTyped c) (carries : Carries c now record) (time : Nat) :
    protectFrameFor (snapshotOf c.pubkey time (protect time record)) =
      .addUpdateContact { c with
        flags := c.flags ||| 1
        lastAdvertTimestamp := takenTimestamp c now } := by
  have path : c.outPath.take maxPathSize = c.outPath :=
    List.take_of_length_le (Nat.le_of_eq typed.path)
  have raised : (protect time record).flags = c.flags ||| 1 := carries.flags
  obtain ⟨name, advType, lat, lon, timestamp, lastmod, outPath, outPathLen, -⟩ :=
    carries_protect carries time
  simp only [protectFrameFor, snapshotOf, name, advType, lat, lon, timestamp, lastmod, outPath,
    outPathLen, raised, path, asI32_degrees typed.lat, asI32_degrees typed.lon, typed.path,
    Nat.sub_self, List.replicate_zero, List.append_nil]

/-- Whatever is done meanwhile to the protection of the contact and to other contacts. -/
theorem protect_frame_as_reported (bus : AdvertBus) (c : Contact) (typed : WellTyped c) (now : Nat)
    (ops : List (Op × Nat)) (aside : ∀ entry ∈ ops, ingested entry.1 ≠ some c.pubkey)
    (later : AdvertBus) (ran : ops.foldlM run (ingest c now bus) = some later)
    (isEligible : BitVec 8 → Option Bool) (protectedCap : Nat)
    (excludePrefixes : List (BitVec 48)) (hash : RecordOrder) (time : Nat)
    (outcome : FavouriteOutcome) (bus' : AdvertBus)
    (marked : later.markFavouriteIfEligible c.pubkey isEligible protectedCap excludePrefixes hash
      time = some (outcome, bus'))
    (snapshot : FavouriteSnapshot) (shot : taken outcome = some snapshot) :
    protectFrameFor snapshot = .addUpdateContact { c with
      flags := c.flags ||| 1
      lastAdvertTimestamp := takenTimestamp c now } := by
  obtain ⟨record, found, -, rfl, -⟩ := mark_taken marked shot
  have carries := carried_runs ops (ingest_carried c now bus) aside ran record found
  exact frame_of_carries typed carries time

def ada : Contact where
  pubkey := 1
  advType := advTypeChat
  flags := 6
  outPathLen := 2
  outPath := List.replicate maxPathSize 7
  name := "ada"
  lastAdvertTimestamp := 1699990000
  gpsLat := -33868820
  gpsLon := 151209290
  lastmod := 12

def bobIsHeard : List (Op × Nat) := [
  (.upsertContact 2 "bob" advTypeChat 0 0 0 1 0 0 [] 0 transportName, 1700000001),
  (.unprotect 2, 1700000002)]

theorem protect_frame_as_reported_ada : ∃ later outcome bus' snapshot,
    bobIsHeard.foldlM run (ingest ada 1700000000 .new) = some later ∧
    later.markFavouriteIfEligible ada.pubkey (fun advType => some (isMeshcoreChatType advType)) 20
      [] .same 1700000003 = some (outcome, bus') ∧ taken outcome = some snapshot ∧
    protectFrameFor snapshot = .addUpdateContact { ada with
      flags := ada.flags ||| 1
      lastAdvertTimestamp := takenTimestamp ada 1700000000 } := by
  have protects : ((bobIsHeard.foldlM run (ingest ada 1700000000 .new)).bind fun later =>
      (later.markFavouriteIfEligible ada.pubkey (fun advType => some (isMeshcoreChatType advType))
        20 [] .same 1700000003).bind fun marked => taken marked.1).isSome := by decide +kernel
  obtain ⟨snapshot, protects⟩ := Option.isSome_iff_exists.mp protects
  obtain ⟨later, ran, protects⟩ := Option.bind_eq_some_iff.mp protects
  obtain ⟨⟨outcome, bus'⟩, marked, shot⟩ := Option.bind_eq_some_iff.mp protects
  have typed : WellTyped ada := ⟨by decide, by decide, by decide⟩
  exact ⟨later, outcome, bus', snapshot, ran, marked, shot, protect_frame_as_reported .new ada typed
    1700000000 bobIsHeard (by decide) later ran _ 20 [] .same 1700000003 outcome bus' marked
    snapshot shot⟩

/-- A radio without a clock reports the time since it was started, and is told the host's. -/
def unsynced : Contact := { ada with lastAdvertTimestamp := 3600 }

theorem protect_frame_altered : ∃ frame,
    ((ingest unsynced 1700000000 .new).markFavouriteIfEligible unsynced.pubkey
      (fun advType => some (isMeshcoreChatType advType)) 20 [] .same 1700000003).bind
        (fun marked => (taken marked.1).map protectFrameFor) = some frame ∧
    frame ≠ .addUpdateContact { unsynced with flags := unsynced.flags ||| 1 } :=
  ⟨.addUpdateContact { unsynced with
      flags := unsynced.flags ||| 1
      lastAdvertTimestamp := 1700000000 },
    by decide +kernel, by decide +kernel⟩

end SupplyDrop.Proof.ProtectFrame
