import Mathlib
import SupplyDrop.Proof.AdminReads

namespace SupplyDrop.Proof.AdminWrites
open Library Mesh.Admin Mesh.Admin.AdminLink Proof.AdminCallers Proof.AdminReads
open Transport.Meshtastic (NodeNum)

variable {l l' l'' : AdminLink}

/-! ## Keys and the writes they cover -/

def writeSerial : ToRadio → Option Nat
  | .adminWrite _ _ d _ => some d.serial
  | _ => none

/-- The connected radio gave the key out on this connection, with so many writes queued. -/
def Issued (issued : List Issue) (epoch : Nat) (passkey : Passkey) (covers : Nat) : Prop :=
  ∃ issue ∈ issued, issue.passkey = passkey ∧ issue.epoch = epoch ∧ covers ≤ issue.covers

/-- An admin write carries a key that the radio of its connection gave out once the write was queued. -/
def Fresh (issued : List Issue) (epoch : Nat) : ToRadio → Prop
  | .adminWrite _ _ d passkey => Issued issued epoch passkey (d.serial + 1)
  | _ => True

def loss : ClientEvent → Bool
  | .disconnected _ => true
  | _ => false

/-- The keys in the frames that no loss of their connection waits behind. -/
def waitingKeys : List ClientEvent → List Passkey
  | [] => []
  | .fromRadio frame :: rest =>
      if rest.any loss then waitingKeys rest
      else (harvestSessionPasskey frame).toList ++ waitingKeys rest
  | _ :: rest => waitingKeys rest

theorem waitingKeys_lost (events : List ClientEvent) (willRetry : Bool) :
    waitingKeys (events ++ [.disconnected willRetry]) = [] := by
  induction events with
  | nil => rfl
  | cons event rest ih =>
      cases event with
      | fromRadio frame =>
          have lost : (rest ++ [ClientEvent.disconnected willRetry]).any loss = true := by simp [loss]
          rw [List.cons_append, waitingKeys, if_pos lost, ih]
      | connected => exact ih
      | disconnected _ => exact ih

theorem waitingKeys_append (events : List ClientEvent) {event : ClientEvent} (kept : loss event = false) :
    waitingKeys (events ++ [event]) = waitingKeys events ++ waitingKeys [event] := by
  induction events with
  | nil => rfl
  | cons first rest ih =>
      cases first with
      | fromRadio frame =>
          have same : (rest ++ [event]).any loss = rest.any loss := by simp [kept]
          rw [List.cons_append, waitingKeys, waitingKeys, same, ih]
          split
          · rfl
          · rw [List.append_assoc]
      | connected => exact ih
      | disconnected _ => exact ih

theorem waitingKeys_tail (event : ClientEvent) (rest : List ClientEvent) :
    waitingKeys rest ⊆ waitingKeys (event :: rest) := by
  cases event with
  | fromRadio frame =>
      rw [waitingKeys]
      split
      · exact List.Subset.refl _
      · exact List.subset_append_right _ _
  | connected => exact List.Subset.refl _
  | disconnected _ => exact List.Subset.refl _

theorem Issued.more {issued : List Issue} {epoch : Nat} {passkey : Passkey} {covers fewer : Nat}
    (key : Issued issued epoch passkey covers) (le : fewer ≤ covers) :
    Issued issued epoch passkey fewer := by
  obtain ⟨issue, mem, same, current, covered⟩ := key
  exact ⟨issue, mem, same, current, le.trans covered⟩

theorem Issued.later {issued later : List Issue} {epoch : Nat} {passkey : Passkey} {covers : Nat}
    (key : Issued issued epoch passkey covers) (grows : issued ⊆ later) :
    Issued later epoch passkey covers := by
  obtain ⟨issue, mem, rest⟩ := key
  exact ⟨issue, grows mem, rest⟩

theorem Fresh.later {issued later : List Issue} {epoch : Nat} {frame : ToRadio}
    (fresh : Fresh issued epoch frame) (grows : issued ⊆ later) : Fresh later epoch frame := by
  cases frame with
  | adminWrite node id d passkey => exact Issued.later fresh grows
  | adminGet node id get => exact trivial
  | adminGetSessionKey node id => exact trivial
  | other => exact trivial

theorem fresh_plain {issued : List Issue} {epoch : Nat} {frame : ToRadio}
    (plain : writeSerial frame = none) : Fresh issued epoch frame := by
  cases frame with
  | adminWrite node id d passkey => cases plain
  | adminGet node id get => exact trivial
  | adminGetSessionKey node id => exact trivial
  | other => exact trivial

/-! ## Where a write can be -/

/-- How often the write is queued, under way to the client, or sent. -/
def uses (n : Nat) (l : AdminLink) : Nat :=
  l.deferredWrites.countP (fun d => d.serial = n) + l.channel.countP (fun f => writeSerial f = some n) +
    l.written.countP fun w => writeSerial w.frame = some n

/-- A step that sends no write: what it queues is new. -/
structure Queues (l l' : AdminLink) : Prop where
  key : l'.lastSessionPasskey = l.lastSessionPasskey
  covers : l'.keyCovers = l.keyCovers
  events : l'.events = l.events
  epoch : l'.epoch = l.epoch
  issued : l'.issued = l.issued
  written : l'.written = l.written
  queued : l.queuedWrites ≤ l'.queuedWrites
  deferred : ∀ d ∈ l'.deferredWrites, d ∈ l.deferredWrites ∨
    l.queuedWrites ≤ d.serial ∧ d.serial < l'.queuedWrites
  channel : ∀ frame ∈ l'.channel, frame ∈ l.channel ∨ writeSerial frame = none
  uses : ∀ n, uses n l' ≤ uses n l + if l.queuedWrites ≤ n ∧ n < l'.queuedWrites then 1 else 0

theorem Queues.refl (l : AdminLink) : Queues l l :=
  ⟨rfl, rfl, rfl, rfl, rfl, rfl, le_rfl, fun _ mem => .inl mem, fun _ mem => .inl mem,
    fun _ => Nat.le_add_right _ _⟩

theorem Queues.trans (first : Queues l l') (second : Queues l' l'') : Queues l l'' := by
  refine ⟨second.key.trans first.key, second.covers.trans first.covers, second.events.trans first.events,
    second.epoch.trans first.epoch, second.issued.trans first.issued, second.written.trans first.written,
    first.queued.trans second.queued, fun d mem => ?_, fun frame mem => ?_, fun n => ?_⟩
  · rcases second.deferred d mem with kept | ⟨low, high⟩
    · rcases first.deferred d kept with before | ⟨low, high⟩
      · exact .inl before
      · exact .inr ⟨low, high.trans_le second.queued⟩
    · exact .inr ⟨first.queued.trans low, high⟩
  · rcases second.channel frame mem with kept | plain
    · exact first.channel frame kept
    · exact .inr plain
  · have before := first.uses n
    have after := second.uses n
    have grows := first.queued
    have more := second.queued
    split at before <;> split at after <;> split <;> omega

/-- A step that queues none either. -/
structure Settles (l l' : AdminLink) : Prop extends Queues l l' where
  same : l'.queuedWrites = l.queuedWrites

theorem Settles.refl (l : AdminLink) : Settles l l := ⟨.refl l, rfl⟩

theorem Settles.trans (first : Settles l l') (second : Settles l' l'') : Settles l l'' :=
  ⟨first.toQueues.trans second.toQueues, second.same.trans first.same⟩

/-- The parts of the state such a step may change freely. -/
theorem settles_of_same (key : l'.lastSessionPasskey = l.lastSessionPasskey)
    (covers : l'.keyCovers = l.keyCovers) (events : l'.events = l.events) (epoch : l'.epoch = l.epoch)
    (issued : l'.issued = l.issued) (written : l'.written = l.written)
    (queued : l'.queuedWrites = l.queuedWrites) (deferred : l'.deferredWrites = l.deferredWrites)
    (channel : l'.channel = l.channel) : Settles l l' := by
  refine ⟨⟨key, covers, events, epoch, issued, written, queued.ge, fun d mem => .inl (deferred ▸ mem),
    fun frame mem => .inl (channel ▸ mem), fun n => ?_⟩, queued⟩
  simp only [AdminWrites.uses, deferred, channel, written]
  exact Nat.le_add_right _ _

theorem settles_tell (l : AdminLink) (id : RequestId) (outcome : Outcome) (answered : Option Data) :
    Settles l (l.tell id outcome answered) := by
  unfold AdminLink.tell
  split
  · exact settles_of_same rfl rfl rfl rfl rfl rfl rfl rfl rfl
  · exact .refl l

theorem settles_tellAny (l : AdminLink) (reply : Option RequestId) (outcome : Outcome) :
    Settles l (l.tellAny reply outcome) := by
  cases reply with
  | some id => exact settles_tell l id outcome none
  | none => exact .refl l

theorem settles_send (frame : ToRadio) (plain : writeSerial frame = none) (l : AdminLink) :
    Settles l (l.send frame) := by
  refine ⟨⟨rfl, rfl, rfl, rfl, rfl, rfl, le_rfl, fun d mem => .inl mem, fun sent mem => ?_,
    fun n => ?_⟩, rfl⟩
  · rcases List.mem_append.mp mem with before | last
    · exact .inl before
    · rw [List.mem_singleton.mp last]
      exact .inr plain
  · simp [AdminWrites.uses, send, List.countP_append, plain]

theorem settles_requestSessionKey (l : AdminLink) (node : NodeNum) (clock : BitVec 32)
    (now : Mesh.Instant) : Settles l (l.requestSessionKey node clock now) := by
  unfold requestSessionKey
  split
  · exact .refl l
  · split
    · exact (settles_send (.adminGetSessionKey node (randomPacketId clock)) rfl l).trans
        (settles_of_same rfl rfl rfl rfl rfl rfl rfl rfl rfl)
    · exact .refl l

theorem Settles.foldl {α : Type} {f : AdminLink → α → AdminLink} (each : ∀ l a, Settles l (f l a))
    (as : List α) (l : AdminLink) : Settles l (as.foldl f l) := by
  induction as generalizing l with
  | nil => exact .refl l
  | cons a rest ih => exact (each l a).trans (ih (f l a))

/-- Writes that are given up. -/
theorem settles_drain (l : AdminLink) : Settles l { l with deferredWrites := [] } := by
  refine ⟨⟨rfl, rfl, rfl, rfl, rfl, rfl, le_rfl, nofun, fun frame mem => .inl mem, fun n => ?_⟩, rfl⟩
  simp only [AdminWrites.uses, List.countP_nil]
  omega

theorem settles_discard (l : AdminLink) : Settles l l.discardDeferredWritesOnDisconnect := by
  apply (settles_drain l).trans
  apply Settles.foldl
  intro l d
  unfold discardWrite
  split
  · exact settles_of_same rfl rfl rfl rfl rfl rfl rfl rfl rfl
  · exact settles_tellAny l _ _

theorem settles_idle (l : AdminLink) : Settles l { l with pendingAdmin := none } :=
  settles_of_same rfl rfl rfl rfl rfl rfl rfl rfl rfl

theorem settles_failPending (l : AdminLink) : Settles l l.failPending := by
  unfold failPending
  split
  · exact (settles_idle l).trans (settles_tell _ _ _ none)
  · exact .refl l

theorem settles_stop (l : AdminLink) : Settles l l.stop := by
  have ended : Settles { l with deferredWrites := [] }
      { l with running := false, adminChannel := [], pendingAdmin := none, deferredWrites := [] } :=
    settles_of_same rfl rfl rfl rfl rfl rfl rfl rfl rfl
  exact ((settles_drain l).trans ended).trans
    (Settles.foldl (fun l id => settles_tell l id .cancelled none) _ _)

theorem settles_reap (l : AdminLink) (now : Mesh.Instant) : Settles l (l.reap now) := by
  have given : Settles l l.reapPending := by
    unfold reapPending
    split
    · split
      · exact .refl l
      · exact settles_idle l
    · exact .refl l
  unfold reap reapSessionKey
  split
  · exact given.trans (settles_of_same rfl rfl rfl rfl rfl rfl rfl rfl rfl)
  · exact given

theorem queues_queueWrite (l : AdminLink) (write : DeferredWrite) : Queues l (l.queueWrite write) := by
  refine ⟨rfl, rfl, rfl, rfl, rfl, rfl, Nat.le_succ _, fun d mem => ?_, fun frame mem => .inl mem,
    fun n => ?_⟩
  · rcases List.mem_append.mp mem with before | last
    · exact .inl before
    · rw [List.mem_singleton.mp last]
      exact .inr ⟨le_rfl, Nat.lt_succ_self _⟩
  · have counted : uses n (l.queueWrite write) = uses n l + if l.queuedWrites = n then 1 else 0 := by
      simp only [AdminWrites.uses, queueWrite, List.countP_append, List.countP_singleton,
        decide_eq_true_eq]
      omega
    rw [counted]
    by_cases own : l.queuedWrites = n
    · have grown : l.queuedWrites ≤ n ∧ n < (l.queueWrite write).queuedWrites :=
        ⟨own.le, own ▸ Nat.lt_succ_self _⟩
      rw [if_pos own, if_pos grown]
    · rw [if_neg own]
      exact Nat.le_add_right _ _

theorem queues_deferWrite (t : Turn) (node : NodeNum) (write : DeferredWrite) (l : AdminLink) :
    Queues l (l.deferWrite t node write) :=
  (queues_queueWrite l write).trans (settles_requestSessionKey _ _ _ _).toQueues

theorem queues_enqueueAutoApply (config : AutoApplyConfig) (l : AdminLink) :
    Queues l (l.enqueueAutoApply config) := by
  have device : Queues l l.enqueueDevice := by
    unfold enqueueDevice
    split
    · split
      · exact queues_queueWrite l _
      · exact .refl l
    · exact .refl l
  have radio (l : AdminLink) : Queues l (l.enqueueRadio config) := by
    unfold enqueueRadio
    split
    · split
      · exact .refl l
      · exact queues_queueWrite l _
    · exact .refl l
  have owner (l : AdminLink) : Queues l (l.enqueueOwner config) := by
    unfold enqueueOwner
    split
    · dsimp only
      split
      · exact .refl l
      · exact queues_queueWrite l _
    · exact .refl l
  exact (device.trans (radio _)).trans (owner _)

theorem queues_place (t : Turn) (l : AdminLink) : Queues l (match t.position with
    | some (lat, lon) => l.queueWrite (.setFixedPosition lat lon)
    | none => l.queueWrite .removeFixedPosition) := by
  split
  · exact queues_queueWrite _ _
  · exact queues_queueWrite _ _

theorem queues_autoApply (t : Turn) (frame : FromRadio) (l : AdminLink) :
    Queues l (l.autoApply t frame) := by
  unfold autoApply
  split
  · next node _ =>
    have clock : Queues l (l.queueWrite .time) := queues_queueWrite l _
    have position := clock.trans (queues_place t _)
    have applied := (position.trans (queues_enqueueAutoApply t.config _)).trans
      (settles_requestSessionKey _ node (t.clock 0) t.now).toQueues
    exact applied.trans (Settles.toQueues (settles_of_same rfl rfl rfl rfl rfl rfl rfl rfl rfl))
  · exact .refl l

theorem queues_protectNodes (t : Turn) (l : AdminLink) : Queues l (l.protectNodes t) := by
  unfold AdminLink.protectNodes
  induction t.favourites generalizing l with
  | nil => exact .refl l
  | cons favourite rest ih =>
      apply Queues.trans _ (ih _)
      unfold protectNode
      split
      · exact (queues_queueWrite l _).trans (settles_requestSessionKey _ _ _ _).toQueues
      · exact .refl l

/-- A frame that is dispatched may decide protections. -/
theorem handleFromRadio_cases (t : Turn) (frame : FromRadio) (l : AdminLink) :
    Settles l (l.handleFromRadio t frame) ∨
      ∃ m, Settles l m ∧ l.handleFromRadio t frame = m.protectNodes t := by
  unfold handleFromRadio
  split
  · exact .inl (settles_of_same rfl rfl rfl rfl rfl rfl rfl rfl rfl)
  · refine .inr ⟨_, ?_, rfl⟩
    split
    · exact settles_of_same rfl rfl rfl rfl rfl rfl rfl rfl rfl
    · exact .refl l
  · exact .inl (settles_of_same rfl rfl rfl rfl rfl rfl rfl rfl rfl)
  · exact .inl (settles_of_same rfl rfl rfl rfl rfl rfl rfl rfl rfl)
  · exact .inl (settles_of_same rfl rfl rfl rfl rfl rfl rfl rfl rfl)
  · exact .inl (.refl l)
  · split
    · exact .inl (.refl l)
    · exact .inr ⟨l, .refl l, rfl⟩
  · exact .inl (.refl l)
  · exact .inl (.refl l)

theorem queues_handleFromRadio (t : Turn) (frame : FromRadio) (l : AdminLink) :
    Queues l (l.handleFromRadio t frame) := by
  rcases handleFromRadio_cases t frame l with settles | ⟨m, settles, same⟩
  · exact settles.toQueues
  · rw [same]
    exact settles.toQueues.trans (queues_protectNodes t m)

theorem settles_handleFromRadio {t : Turn} (calm : t.favourites = []) (frame : FromRadio)
    (l : AdminLink) : Settles l (l.handleFromRadio t frame) := by
  rcases handleFromRadio_cases t frame l with settles | ⟨m, settles, same⟩
  · exact settles
  · have idle : m.protectNodes t = m := by
      rw [AdminLink.protectNodes, calm]
      rfl
    rw [same, idle]
    exact settles

/-! ## The flush -/

/-- Some of the writes are sent, all with one key, and some are queued again. -/
structure Flushes (ds : List Deferred) (passkey : Passkey) (l l' : AdminLink) : Prop where
  key : l'.lastSessionPasskey = l.lastSessionPasskey
  events : l'.events = l.events
  covers : l'.keyCovers = l.keyCovers
  epoch : l'.epoch = l.epoch
  issued : l'.issued = l.issued
  written : l'.written = l.written
  queued : l'.queuedWrites = l.queuedWrites
  deferred : ∀ d ∈ l'.deferredWrites, d ∈ l.deferredWrites ∨ d ∈ ds
  channel : ∀ frame ∈ l'.channel, frame ∈ l.channel ∨
    ∃ d ∈ ds, ∃ node id, frame = .adminWrite node id d passkey
  uses : ∀ n, uses n l' ≤ uses n l + ds.countP fun d => d.serial = n

variable {passkey : Passkey}

theorem Settles.flushes (settles : Settles l l')
    (deferred : l'.deferredWrites = l.deferredWrites) (channel : l'.channel = l.channel)
    (ds : List Deferred) : Flushes ds passkey l l' where
  key := settles.key
  events := settles.events
  covers := settles.covers
  epoch := settles.epoch
  issued := settles.issued
  written := settles.written
  queued := settles.same
  deferred := fun d mem => .inl (deferred ▸ mem)
  channel := fun frame mem => .inl (channel ▸ mem)
  uses := by
    intro n
    simp only [AdminWrites.uses, deferred, channel, settles.written]
    exact Nat.le_add_right _ _

theorem Flushes.trans {d : Deferred} {ds : List Deferred} (first : Flushes [d] passkey l l')
    (rest : Flushes ds passkey l' l'') : Flushes (d :: ds) passkey l l'' := by
  refine ⟨rest.key.trans first.key, rest.events.trans first.events, rest.covers.trans first.covers,
    rest.epoch.trans first.epoch, rest.issued.trans first.issued, rest.written.trans first.written,
    rest.queued.trans first.queued, fun e mem => ?_, fun frame mem => ?_, fun n => ?_⟩
  · rcases rest.deferred e mem with kept | later
    · rcases first.deferred e kept with before | own
      · exact .inl before
      · exact .inr (List.mem_cons.mpr (.inl (List.mem_singleton.mp own)))
    · exact .inr (List.mem_cons_of_mem _ later)
  · rcases rest.channel frame mem with kept | ⟨e, later, sent⟩
    · rcases first.channel frame kept with before | ⟨e, own, sent⟩
      · exact .inl before
      · exact .inr ⟨e, List.mem_cons.mpr (.inl (List.mem_singleton.mp own)), sent⟩
    · exact .inr ⟨e, List.mem_cons_of_mem _ later, sent⟩
  · have before := first.uses n
    have after := rest.uses n
    rw [List.countP_singleton] at before
    rw [List.countP_cons]
    omega

theorem flushes_send (node : NodeNum) (id : PacketId) (d : Deferred) (l : AdminLink) :
    Flushes [d] passkey l (l.send (.adminWrite node id d passkey)) := by
  refine ⟨rfl, rfl, rfl, rfl, rfl, rfl, rfl, fun e mem => .inl mem, fun frame mem => ?_, fun n => ?_⟩
  · rcases List.mem_append.mp mem with before | last
    · exact .inl before
    · exact .inr ⟨d, List.mem_singleton_self d, node, id, List.mem_singleton.mp last⟩
  · simp only [AdminWrites.uses, send, List.countP_append, List.countP_singleton, writeSerial,
      Option.some.injEq, decide_eq_true_eq]
    omega

theorem Flushes.tellAny {ds : List Deferred} (flushes : Flushes ds passkey l l')
    (reply : Option RequestId) (outcome : Outcome) :
    Flushes ds passkey l (l'.tellAny reply outcome) := by
  cases reply with
  | none => exact flushes
  | some id =>
      show Flushes ds passkey l (l'.tell id outcome none)
      unfold AdminLink.tell
      split
      · exact ⟨flushes.key, flushes.events, flushes.covers, flushes.epoch, flushes.issued,
          flushes.written, flushes.queued, flushes.deferred, flushes.channel, flushes.uses⟩
      · exact flushes

theorem flushes_requeue (d : Deferred) (l : AdminLink) :
    Flushes [d] passkey l { l with deferredWrites := l.deferredWrites ++ [d] } := by
  refine ⟨rfl, rfl, rfl, rfl, rfl, rfl, rfl, fun e mem => List.mem_append.mp mem,
    fun frame mem => .inl mem, fun n => ?_⟩
  simp only [AdminWrites.uses, List.countP_append]
  omega

theorem flushes_drop (d : Deferred) (l : AdminLink) : Flushes [d] passkey l l :=
  (Settles.refl l).flushes rfl rfl [d]

theorem flushes_trySend (node : NodeNum) (id : PacketId) (d : Deferred) (l : AdminLink) :
    Flushes [d] passkey l (if l.hasRoom then l.send (.adminWrite node id d passkey) else l) := by
  split
  · exact flushes_send node id d l
  · exact flushes_drop d l

theorem flushes_flushWrite (t : Turn) (node : NodeNum) (passkey : Passkey) (l : AdminLink)
    (d : Deferred) : Flushes [d] passkey l (l.flushWrite t node passkey d) := by
  unfold flushWrite
  cases d.write with
  | lora config reply => exact (flushes_send _ _ d l).tellAny reply .ok
  | owner user reply => exact (flushes_send _ _ d l).tellAny reply .ok
  | reboot secs reply => exact (flushes_send _ _ d l).tellAny reply .ok
  | device config => exact flushes_trySend _ _ d l
  | time => exact flushes_trySend _ _ d l
  | setFixedPosition lat lon =>
      dsimp only
      split
      · exact flushes_send _ _ d l
      · exact flushes_requeue d l
  | removeFixedPosition =>
      dsimp only
      split
      · exact flushes_send _ _ d l
      · exact flushes_requeue d l
  | setFavoriteNode nodeNum generation =>
      dsimp only
      split
      · exact flushes_send _ _ d l
      · have reverted : Settles l { l with reverts := l.reverts ++ [(nodeNum, generation)] } :=
          settles_of_same rfl rfl rfl rfl rfl rfl rfl rfl rfl
        exact reverted.flushes rfl rfl [d]
  | removeFavoriteNode nodeNum =>
      dsimp only
      split
      · exact flushes_drop d l
      · exact flushes_trySend _ _ d l

theorem flushes_foldl (t : Turn) (node : NodeNum) (passkey : Passkey) (ds : List Deferred)
    (l : AdminLink) : Flushes ds passkey l (ds.foldl (flushWrite t node passkey) l) := by
  induction ds generalizing l with
  | nil => exact (Settles.refl l).flushes rfl rfl []
  | cons d rest ih => exact (flushes_flushWrite t node passkey l d).trans (ih _)

theorem flush_cases (t : Turn) (l : AdminLink) : l.flush t = l ∨
    l.lastSessionPasskey ≠ [] ∧ l.deferredWrites ≠ [] ∧
      Flushes l.deferredWrites l.lastSessionPasskey { l with deferredWrites := [] } (l.flush t) := by
  unfold flush
  split
  · exact .inl rfl
  · next due =>
    split
    · next node _ =>
      have some_due : l.lastSessionPasskey ≠ [] ∧ l.deferredWrites ≠ [] := by
        simpa [and_comm] using due
      have flushed := flushes_foldl t node l.lastSessionPasskey l.deferredWrites
        { l with deferredWrites := [] }
      exact .inr ⟨some_due.1, some_due.2, flushed.key, flushed.events, flushed.covers, flushed.epoch,
        flushed.issued, flushed.written, flushed.queued, flushed.deferred, flushed.channel, flushed.uses⟩
    · exact .inl rfl

/-! ## No write is sent twice -/

/-- A queued write is at one place at most, and none is anywhere before it is queued. -/
def Once (l : AdminLink) : Prop := ∀ n, uses n l ≤ if n < l.queuedWrites then 1 else 0

theorem once_initial : Once initial := by
  intro n
  simp [initial, AdminWrites.uses]

theorem Once.queues (once : Once l) (queues : Queues l l') : Once l' := by
  intro n
  have before := once n
  have after := queues.uses n
  have grows := queues.queued
  split at before <;> split at after <;> split <;> omega

theorem Once.of_same (once : Once l) (deferred : l'.deferredWrites = l.deferredWrites)
    (channel : l'.channel = l.channel) (written : l'.written = l.written)
    (queued : l'.queuedWrites = l.queuedWrites) : Once l' := by
  intro n
  have before := once n
  simp only [AdminWrites.uses, deferred, channel, written, queued] at before ⊢
  exact before

theorem uses_flush (n : Nat) (t : Turn) (l : AdminLink) :
    uses n (l.flush t) ≤ uses n l ∧ (l.flush t).queuedWrites = l.queuedWrites := by
  rcases flush_cases t l with same | ⟨_, _, flushes⟩
  · rw [same]
    exact ⟨le_rfl, rfl⟩
  · have drained : uses n { l with deferredWrites := [] } +
        l.deferredWrites.countP (fun d => d.serial = n) = uses n l := by
      simp only [AdminWrites.uses, List.countP_nil]
      omega
    exact ⟨drained ▸ flushes.uses n, flushes.queued⟩

theorem Once.flush (once : Once l) (t : Turn) : Once (l.flush t) := by
  intro n
  obtain ⟨fewer, queued⟩ := uses_flush n t l
  rw [queued]
  exact fewer.trans (once n)

theorem Once.harvest (once : Once l) (frame : FromRadio) : Once (l.harvest frame) := by
  unfold AdminLink.harvest
  split
  · exact once.of_same rfl rfl rfl rfl
  · exact once

theorem Once.captureKey (once : Once l) (payload : Except String AdminMessage) :
    Once (l.captureKey payload) := by
  unfold AdminLink.captureKey
  split
  · split
    · exact once
    · exact once.of_same rfl rfl rfl rfl
  · exact once

theorem Once.answer (once : Once l) (frame : FromRadio) : Once (l.tryHandleAdminResponse frame).2 := by
  unfold tryHandleAdminResponse
  split
  · next data _ =>
    split
    · have captured := (once.captureKey data.payload).queues (settles_idle _).toQueues
      exact captured.queues (settles_tell _ _ _ _).toQueues
    · exact once
  · exact once

theorem Once.processFrame (once : Once l) (t : Turn) (frame : FromRadio) :
    Once (l.processFrame t frame) := by
  have answered := ((((once.queues (queues_autoApply t frame l)).harvest frame).flush t).answer frame)
  unfold AdminLink.processFrame
  dsimp only
  split
  · next consumed =>
    rw [consumed] at answered
    exact answered
  · next passed =>
    rw [passed] at answered
    exact answered.queues (queues_handleFromRadio t frame _)

theorem Once.handleEvent (once : Once l) (t : Turn) (event : ClientEvent) :
    Once (l.handleEvent t event) := by
  cases event with
  | connected => exact once.of_same rfl rfl rfl rfl
  | fromRadio frame => exact once.processFrame t frame
  | disconnected willRetry =>
      have closed : Once { l.failPending.discardDeferredWritesOnDisconnect with
          sessionRequested := false, sessionRequestedAt := none, lastSessionPasskey := [],
          autoApplied := false } :=
        (once.queues ((settles_failPending l).trans (settles_discard _)).toQueues).of_same rfl rfl rfl rfl
      cases willRetry with
      | true => exact closed
      | false => exact closed.queues (settles_stop _).toQueues

theorem queues_takeRequest (l : AdminLink) (t : Turn) (id : RequestId) (req : MeshtasticAdminRequest) :
    Queues l (l.takeRequest t id req) ∧ (isRead req → Settles l (l.takeRequest t id req)) := by
  have told (l : AdminLink) (outcome : Outcome) : Settles l (l.tell id outcome none) :=
    settles_tell l id outcome none
  unfold takeRequest
  split
  · next node _ =>
    cases req with
    | get get =>
        have begun : Settles l (l.startGet t node id get) :=
          (settles_send (.adminGet node (randomPacketId (t.clock 0)) get) rfl l).trans
            (settles_of_same rfl rfl rfl rfl rfl rfl rfl rfl rfl)
        unfold handleRequest
        dsimp only
        split
        · exact ⟨(told l _).toQueues, fun _ => told l _⟩
        · exact ⟨begun.toQueues, fun _ => begun⟩
    | getSnapshot => exact ⟨(told l _).toQueues, fun _ => told l _⟩
    | setLoRaConfig config => exact ⟨queues_deferWrite t node _ l, nofun⟩
    | setOwner longName shortName => exact ⟨queues_deferWrite t node _ l, nofun⟩
    | reboot seconds => exact ⟨queues_deferWrite t node _ l, nofun⟩
    | removeFavoriteNode nodeNum =>
        exact ⟨(queues_deferWrite t node _ l).trans (told _ _).toQueues, nofun⟩
  · unfold rejectNoNum
    split
    · exact ⟨(told l _).toQueues, fun _ => told l _⟩
    · exact ⟨(told l _).toQueues, fun _ => told l _⟩

theorem Once.step {label : Label} (once : Once l) (next : Steps label l l') : Once l' := by
  cases label with
  | call req =>
      simp only [Steps, AdminLink.step] at next
      split at next
      · cases next
        exact once.of_same rfl rfl rfl rfl
      · cases next
  | take t =>
      simp only [Steps, AdminLink.step] at next
      split at next
      · next id rest running first =>
        obtain ⟨req, _, rfl⟩ := Option.map_eq_some_iff.mp next
        have behind : Once { l with adminChannel := rest } := once.of_same rfl rfl rfl rfl
        exact behind.queues (queues_takeRequest _ t id req).1
      · cases next
  | timeout id =>
      simp only [Steps, AdminLink.step] at next
      split at next
      · cases next
        exact once.of_same rfl rfl rfl rfl
      · cases next
  | reap now =>
      simp only [Steps, AdminLink.step] at next
      split at next
      · cases next
        exact once.queues (settles_reap l now).toQueues
      · cases next
  | other =>
      cases next
      exact once.queues (settles_send _ rfl l).toQueues
  | write =>
      simp only [Steps, AdminLink.step] at next
      split at next
      · next frame rest first =>
        split at next
        · cases next
          intro n
          have before := once n
          simp only [AdminWrites.uses, first, List.countP_cons, List.countP_append,
            List.countP_nil] at before ⊢
          omega
        · cases next
      · cases next
  | writeError =>
      simp only [Steps, AdminLink.step] at next
      split at next
      · next frame rest first =>
        split at next
        · cases next
          have lost : Once { l with channel := rest } := by
            intro n
            refine le_trans ?_ (once n)
            simp only [AdminWrites.uses, first, List.countP_cons]
            omega
          exact lost.of_same rfl rfl rfl rfl
        · cases next
      · cases next
  | receive frame =>
      simp only [Steps, AdminLink.step] at next
      split at next
      · cases next
        exact once.of_same rfl rfl rfl rfl
      · cases next
  | process t =>
      simp only [Steps, AdminLink.step] at next
      split at next
      · next event rest running first =>
        cases next
        have behind : Once { l with events := rest } := once.of_same rfl rfl rfl rfl
        exact behind.handleEvent t event
      · cases next
  | disconnect =>
      cases next
      exact once.of_same rfl rfl rfl rfl
  | reconnect node =>
      simp only [Steps, AdminLink.step] at next
      split at next
      · cases next
      · cases next
        exact once.of_same rfl rfl rfl rfl
  | shutdown =>
      simp only [Steps, AdminLink.step] at next
      split at next
      · cases next
        exact once.queues (settles_stop l).toQueues
      · cases next

theorem sent_once (once : Once l) (n : Nat) :
    l.written.countP (fun w => writeSerial w.frame = some n) ≤ 1 := by
  have bound := once n
  simp only [AdminWrites.uses] at bound
  split at bound <;> omega

end SupplyDrop.Proof.AdminWrites
