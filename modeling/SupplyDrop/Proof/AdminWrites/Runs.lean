import Mathlib
import SupplyDrop.Proof.AdminWrites.Keys

namespace SupplyDrop.Proof.AdminWrites
open Library Mesh.Admin Mesh.Admin.AdminLink Proof.AdminCallers Proof.AdminReads
open Transport.Meshtastic (NodeNum)

variable {l l' l'' : AdminLink}

/-! ## Callers of writes -/

/-- Once no write waits, the caller of one that did has been told. -/
theorem told_when_drained {id : RequestId} (owes : Owes [] l) (owes' : Owes [] l') (places : Places l l')
    (pending : l'.pendingAdmin = l.pendingAdmin ∨ l'.pendingAdmin = none) (drained : waitingWrites l' = [])
    (waits : id ∈ waitingWrites l) (listens : l.isOpen id = true) : l'.tells id = 1 := by
  have balance := owes id
  have once : 1 ≤ (waitingWrites l).count id := List.count_pos_iff.mpr waits
  rw [if_pos listens, List.count_nil, held, List.count_append, List.count_append] at balance
  have made : id < l.requests.length := by
    by_contra unmade
    rw [if_neg unmade] at balance
    simp only [waitingWrites] at once
    omega
  rw [if_pos made] at balance
  have alone : l.adminChannel.count id = 0 ∧ (l.pendingAdmin.map (·.reply)).toList.count id = 0 := by
    simp only [waitingWrites] at once
    omega
  refine told_of_free owes' (places.requests ▸ made) fun elsewhere => ?_
  have elsewhere : id ∈ l'.adminChannel ∨ id ∈ (l'.pendingAdmin.map (·.reply)).toList ∨
      id ∈ waitingWrites l' := by
    simpa [held, waitingWrites] using elsewhere
  rcases elsewhere with queued | read | written
  · exact List.count_eq_zero.mp alone.1 (places.adminChannel.subset queued)
  · rcases pending with same | idle
    · exact List.count_eq_zero.mp alone.2 (same ▸ read)
    · rw [idle] at read
      cases read
  · rw [drained] at written
    cases written

theorem discard_drained (l : AdminLink) : l.discardDeferredWritesOnDisconnect.deferredWrites = [] := by
  have kept (ds : List Deferred) (l : AdminLink) :
      (ds.foldl discardWrite l).deferredWrites = l.deferredWrites := by
    induction ds generalizing l with
    | nil => rfl
    | cons d rest ih =>
        rw [List.foldl_cons, ih]
        unfold discardWrite
        split
        · rfl
        · unfold AdminLink.tellAny AdminLink.tell
          split
          · split <;> rfl
          · rfl
  exact kept l.deferredWrites { l with deferredWrites := [] }

theorem disconnected_drained (l : AdminLink) (t : Turn) (willRetry : Bool) :
    waitingWrites (l.handleEvent t (.disconnected willRetry)) = [] := by
  have discarded := discard_drained l.failPending
  have closed : waitingWrites { l.failPending.discardDeferredWritesOnDisconnect with
      sessionRequested := false, sessionRequestedAt := none, lastSessionPasskey := [],
      autoApplied := false } = [] := by
    rw [waitingWrites, discarded]
    rfl
  cases willRetry with
  | true => exact closed
  | false => exact List.subset_nil.mp (closed ▸ (quiet_stop _).writes)

/-- Only writes without a caller are queued again. -/
theorem flushWrite_silent (t : Turn) (node : NodeNum) (passkey : Passkey) (l : AdminLink) (d : Deferred) :
    waitingWrites (l.flushWrite t node passkey d) = waitingWrites l := by
  have told (frame : ToRadio) (reply : Option RequestId) :
      waitingWrites ((l.send frame).tellAny reply .ok) = waitingWrites l := by
    cases reply with
    | none => rfl
    | some id =>
        simp only [AdminLink.tellAny, AdminLink.tell]
        split <;> rfl
  have tried (frame : ToRadio) : waitingWrites (if l.hasRoom then l.send frame else l) =
      waitingWrites l := by
    split <;> rfl
  have again (silent : d.write.reply = none) :
      waitingWrites { l with deferredWrites := l.deferredWrites ++ [d] } = waitingWrites l := by
    simp [waitingWrites, silent]
  unfold flushWrite
  cases write : d.write with
  | lora config reply => exact told _ reply
  | owner user reply => exact told _ reply
  | reboot secs reply => exact told _ reply
  | device config => exact tried _
  | time => exact tried _
  | setFixedPosition lat lon =>
      dsimp only
      split
      · rfl
      · exact again (by rw [write]; rfl)
  | removeFixedPosition =>
      dsimp only
      split
      · rfl
      · exact again (by rw [write]; rfl)
  | setFavoriteNode nodeNum generation =>
      dsimp only
      split <;> rfl
  | removeFavoriteNode nodeNum =>
      dsimp only
      split
      · rfl
      · exact tried _

theorem flush_drained (t : Turn) {node : NodeNum} (known : l.lastSessionPasskey ≠ [])
    (numbered : l.myNodeNum = some node) : waitingWrites (l.flush t) = [] := by
  have kept (ds : List Deferred) (m : AdminLink) :
      waitingWrites (ds.foldl (flushWrite t node l.lastSessionPasskey) m) = waitingWrites m := by
    induction ds generalizing m with
    | nil => rfl
    | cons d rest ih => rw [List.foldl_cons, ih, flushWrite_silent]
  unfold flush
  split
  · next idle =>
    have none : l.deferredWrites = [] := by simpa [known] using idle
    rw [waitingWrites, none]
    rfl
  · rw [numbered]
    exact kept l.deferredWrites { l with deferredWrites := [] }

theorem harvested_some {frame : FromRadio} {key : Passkey}
    (carried : harvestSessionPasskey frame = some key) : key ≠ [] := by
  unfold harvestSessionPasskey at carried
  split at carried
  · split at carried
    · split at carried
      · cases carried
      · next filled =>
        cases carried
        simpa using filled
    · cases carried
  · cases carried

theorem harvest_numbered (frame : FromRadio) (l : AdminLink) :
    (l.harvest frame).myNodeNum = l.myNodeNum := by
  unfold AdminLink.harvest
  split <;> rfl

theorem answer_pending (l : AdminLink) (frame : FromRadio) :
    (l.tryHandleAdminResponse frame).2.pendingAdmin = l.pendingAdmin ∨
      (l.tryHandleAdminResponse frame).2.pendingAdmin = none := by
  unfold tryHandleAdminResponse
  split
  · split
    · exact .inr (tell_pending _ _ _ _)
    · exact .inl rfl
  · exact .inl rfl

theorem pending_or_idle (first : l'.pendingAdmin = l.pendingAdmin ∨ l'.pendingAdmin = none)
    (rest : l''.pendingAdmin = l'.pendingAdmin ∨ l''.pendingAdmin = none) :
    l''.pendingAdmin = l.pendingAdmin ∨ l''.pendingAdmin = none := by
  rcases rest with same | idle
  · rw [same]
    exact first
  · exact .inr idle

theorem processFrame_drained {frame : FromRadio} {key : Passkey} {node : NodeNum}
    (carried : harvestSessionPasskey frame = some key) (numbered : l.myNodeNum = some node) (t : Turn) :
    Places l (l.processFrame t frame) ∧
      ((l.processFrame t frame).pendingAdmin = l.pendingAdmin ∨
        (l.processFrame t frame).pendingAdmin = none) ∧
      waitingWrites (l.processFrame t frame) = [] := by
  have front := ((quiet_autoApply t frame l).trans (quiet_harvest frame _)).trans (quiet_flush t _)
  have known : (l.harvest frame).lastSessionPasskey ≠ [] := by
    unfold AdminLink.harvest
    rw [carried]
    exact harvested_some carried
  have drained : waitingWrites (((l.autoApply t frame).harvest frame).flush t) = [] := by
    rw [autoApply_idle (applyDue_none carried l)]
    exact flush_drained t known ((harvest_numbered frame l).trans numbered)
  unfold AdminLink.processFrame
  dsimp only
  generalize ((l.autoApply t frame).harvest frame).flush t = m at front drained ⊢
  have places := front.toPlaces.trans (places_answer m frame)
  have pending := pending_or_idle front.pending (answer_pending m frame)
  have empty : waitingWrites (m.tryHandleAdminResponse frame).2 = [] :=
    List.subset_nil.mp (drained ▸ (places_answer m frame).writes)
  split
  · next consumed =>
    rw [consumed] at places pending empty
    exact ⟨places, pending, empty⟩
  · next passed =>
    rw [passed] at places pending empty
    have rest := quiet_handleFromRadio t frame (m.tryHandleAdminResponse frame).2
    rw [passed] at rest
    exact ⟨places.trans rest.toPlaces, pending_or_idle pending rest.pending,
      List.subset_nil.mp (empty ▸ rest.writes)⟩

/-- The caller of a write waits until it is taken and until its write is flushed or given up. -/
theorem write_told {id : RequestId} {req : MeshtasticAdminRequest} (sourced : Sourced l)
    (owes : Owes [] l) (request : l.requests[id]? = some req) (write : isRead req = false) :
    l.tells id = 1 ∨ l.tells id = 0 ∧ (id ∈ l.adminChannel ∨ id ∈ waitingWrites l) := by
  have made := (List.getElem?_eq_some_iff.mp request).1
  have balance := owes id
  rw [if_pos made, List.count_nil] at balance
  by_cases waits : id ∈ held l
  · by_cases untold : l.tells id = 0
    · refine .inr ⟨untold, ?_⟩
      have waits : id ∈ l.adminChannel ∨ (∃ op, l.pendingAdmin = some op ∧ op.reply = id) ∨
          id ∈ waitingWrites l := by
        simpa [held, waitingWrites] using waits
      rcases waits with queued | ⟨op, pending, own⟩ | waiting
      · exact .inl queued
      · have get := (sourced.pending op pending).2
        rw [own, request] at get
        cases get
        cases write
      · exact .inr waiting
    · refine .inl ?_
      split at balance <;> omega
  · exact .inl (told_of_free owes made waits)

/-- In a run of careful steps every admin write goes out with a key that the connected radio gave out for
it, once, and its caller is told once. -/
theorem writes_fresh (run : Reaches Steps Careful initial l) :
    (∀ w ∈ l.written, Fresh l.issued w.epoch w.frame) ∧
    (∀ n, l.written.countP (fun w => writeSerial w.frame = some n) ≤ 1) ∧
    (∀ id req, l.requests[id]? = some req → isRead req = false → l.tells id = 1 ∨ l.tells id = 0 ∧
      (id ∈ l.adminChannel ∨ id ∈ waitingWrites l)) ∧
    ∀ id ∈ waitingWrites l, l.isOpen id = true →
      (∀ t willRetry, (l.handleEvent t (.disconnected willRetry)).tells id = 1) ∧
      ∀ t frame key node, harvestSessionPasskey frame = some key → l.myNodeNum = some node →
        (l.processFrame t frame).tells id = 1 := by
  have keyed := run.invariant keyed_initial fun _ _ _ keyed careful next => keyed.step careful next
  have once := run.invariant once_initial fun _ _ _ once _ next => once.step next
  have owes := owes_reached run
  have sourced := sourced_reached run
  refine ⟨keyed.written, sent_once once, fun id req request write => write_told sourced owes request write,
    fun id waits listens => ⟨fun t willRetry => ?_, fun t frame key node carried numbered => ?_⟩⟩
  · have quiet := quiet_disconnected t willRetry l
    exact told_when_drained owes (owes.handleEvent t _) quiet.toPlaces quiet.pending
      (disconnected_drained l t willRetry) waits listens
  · obtain ⟨places, pending, drained⟩ := processFrame_drained carried numbered t
    exact told_when_drained owes (owes.processFrame t frame) places pending drained waits listens

/-! ## Runs -/

instance (issued : List Issue) (epoch : Nat) : DecidablePred (Fresh issued epoch)
  | .adminWrite _ _ d passkey => inferInstanceAs (Decidable (∃ issue ∈ issued,
      issue.passkey = passkey ∧ issue.epoch = epoch ∧ d.serial + 1 ≤ issue.covers))
  | .adminGet _ _ _ => isTrue trivial
  | .adminGetSessionKey _ _ => isTrue trivial
  | .other => isTrue trivial

def outcomeOf (labels : List Label) : AdminLink :=
  labels.foldl (fun l label => (l.step label).getD l) initial

def keyPacket (sender : NodeNum) (key : Passkey) : FromRadio :=
  .packet ⟨sender, some ⟨portAdminApp, .ok ⟨some (.getConfigResponse none), key⟩, 0, 0⟩⟩

def connecting : List Label := [.reconnect 1, .receive (.myInfo 1), .process calm, .process calm]

/-- A write, and the key that is asked for it. -/
def asked : AdminLink := outcomeOf (connecting ++
  [.call (.reboot 0), .take calm, .write, .receive (keyPacket 1 [7]), .process calm, .write])

theorem asked_reached : Reaches Steps Careful initial asked :=
  .follow_taken ⟨⟨trivial, rfl⟩, ⟨.inl rfl, rfl⟩, ⟨trivial, rfl⟩,
    ⟨⟨.inr rfl, fun _ => .inl rfl, nofun⟩, rfl⟩, ⟨trivial, rfl⟩, ⟨.inr (.inr rfl), rfl⟩, ⟨trivial, rfl⟩,
    ⟨.inr (by decide +kernel), rfl⟩, ⟨⟨.inr rfl, nofun, nofun⟩, rfl⟩, ⟨trivial, rfl⟩, trivial⟩

theorem writes_fresh_asked : asked.written.any (fun w => writeSerial w.frame = some 0) = true ∧
    ∀ w ∈ asked.written, Fresh asked.issued w.epoch w.frame :=
  ⟨by decide +kernel, (writes_fresh asked_reached).1⟩

/-- Another node's key. -/
def foreign : List Label := connecting ++
  [.call (.reboot 0), .take calm, .receive (keyPacket 2 [9]), .process calm, .write, .write]

/-- A key from before the write. -/
def remembered : List Label := connecting ++
  [.receive (keyPacket 1 [7]), .process calm, .call (.reboot 0), .take calm, .receive .other,
    .process calm, .write, .write]

/-- A key from before the loss. -/
def leftover : List Label := connecting ++
  [.call (.reboot 0), .take calm, .receive (keyPacket 1 [7]), .process calm, .write, .disconnect,
    .reconnect 1, .write]

/-- A write with a key that is not fresh, of which the caller is told that it went well. -/
def WritesStale (labels : List Label) : Prop :=
  Reaches Steps (fun _ _ => True) initial (outcomeOf labels) ∧
    (∃ w ∈ (outcomeOf labels).written,
      ¬Fresh (outcomeOf labels).issued w.epoch w.frame) ∧
    ⟨0, .ok, none⟩ ∈ (outcomeOf labels).told

theorem keys_not_fresh : WritesStale foreign ∧ WritesStale remembered ∧ WritesStale leftover := by
  have free (labels : List Label)
      (taken : Reaches.Follows (fun l label => (AdminLink.step l label).getD l)
        (fun label l => True ∧ (AdminLink.step l label).isSome) labels initial) :
      Reaches Steps (fun _ _ => True) initial (outcomeOf labels) := .follow_taken taken
  refine ⟨?_, ?_, ?_⟩
  · exact ⟨free _ (by decide +kernel), by decide +kernel, by decide +kernel⟩
  · exact ⟨free _ (by decide +kernel), by decide +kernel, by decide +kernel⟩
  · exact ⟨free _ (by decide +kernel), by decide +kernel, by decide +kernel⟩

end SupplyDrop.Proof.AdminWrites
