import Mathlib
import SupplyDrop.Proof.AdminWrites.Queue

namespace SupplyDrop.Proof.AdminWrites
open Library Mesh.Admin Mesh.Admin.AdminLink Proof.AdminCallers Proof.AdminReads
open Transport.Meshtastic (NodeNum)

variable {l l' l'' : AdminLink}

/-! ## Which runs keep the keys fresh -/

/-- A frame that the loop processes with its own key, or with one that covers the writes that wait. -/
structure Timely (t : Turn) (frame : FromRadio) (l : AdminLink) : Prop where
  -- nothing is queued in front of a key that has come already
  queueing : l.applyDue frame = none ∧ t.favourites = [] ∨ waitingKeys l.events = []
  remembered : harvestSessionPasskey frame = none → l.lastSessionPasskey = [] ∨
    l.applyDue frame = none ∧ ∀ d ∈ l.deferredWrites, d.serial < l.keyCovers
  -- nothing is sent for a connection that is gone
  connected : l.events.any loss = true → l.deferredWrites = [] ∧ l.applyDue frame = none ∨
    harvestSessionPasskey frame = none ∧ l.lastSessionPasskey = []

def Careful : Label → AdminLink → Prop
  | .receive frame, l => harvestSessionPasskey frame = none ∨ l.issues frame ≠ []
  | .take _, l => l.myNodeNum = none ∨ (l.adminChannel.head?.bind (l.requests[·]?)).all isRead = true ∨
      waitingKeys l.events = []
  | .process t, l =>
      match l.events with
      | .fromRadio frame :: rest => Timely t frame { l with events := rest }
      | _ => True
  | .writeError, l => ∀ frame ∈ l.channel.tail, writeSerial frame = none
  | .disconnect, l => ∀ frame ∈ l.channel, writeSerial frame = none
  | _, _ => True

/-- Every key that is remembered or under way is the radio's own, from this connection. -/
structure Keyed (l : AdminLink) : Prop where
  remembered : l.lastSessionPasskey ≠ [] → l.events.any loss = false →
    Issued l.issued l.epoch l.lastSessionPasskey l.keyCovers
  waiting : ∀ passkey ∈ waitingKeys l.events, Issued l.issued l.epoch passkey l.queuedWrites
  channel : ∀ frame ∈ l.channel, Fresh l.issued l.epoch frame
  written : ∀ w ∈ l.written, Fresh l.issued w.epoch w.frame
  serials : ∀ d ∈ l.deferredWrites, d.serial < l.queuedWrites

theorem keyed_initial : Keyed initial := by
  constructor <;> simp [initial, waitingKeys]

theorem Keyed.queues (keyed : Keyed l) (queues : Queues l l')
    (ahead : l'.queuedWrites = l.queuedWrites ∨ waitingKeys l.events = []) : Keyed l' where
  remembered := by
    rw [queues.key, queues.events, queues.issued, queues.epoch, queues.covers]
    exact keyed.remembered
  waiting := by
    rw [queues.events, queues.issued, queues.epoch]
    rcases ahead with same | none
    · rw [same]
      exact keyed.waiting
    · rw [none]
      nofun
  channel := by
    intro frame mem
    rw [queues.issued, queues.epoch]
    rcases queues.channel frame mem with before | plain
    · exact keyed.channel frame before
    · exact fresh_plain plain
  written := by
    rw [queues.written, queues.issued]
    exact keyed.written
  serials := by
    intro d mem
    rcases queues.deferred d mem with before | ⟨_, high⟩
    · exact (keyed.serials d before).trans_le queues.queued
    · exact high

theorem Keyed.settles (keyed : Keyed l) (settles : Settles l l') : Keyed l' :=
  keyed.queues settles.toQueues (.inl settles.same)

/-- What is flushed now goes out with a key that covers it. -/
def Ready (l : AdminLink) : Prop :=
  l.lastSessionPasskey ≠ [] → l.deferredWrites ≠ [] →
    l.events.any loss = false ∧ ∀ d ∈ l.deferredWrites, d.serial < l.keyCovers

theorem Keyed.flush (keyed : Keyed l) (ready : Ready l) (t : Turn) : Keyed (l.flush t) := by
  rcases flush_cases t l with same | ⟨known, some_wait, flushes⟩
  · rw [same]
    exact keyed
  · obtain ⟨connected, covered⟩ := ready known some_wait
    have key := keyed.remembered known connected
    refine ⟨?_, ?_, fun frame mem => ?_, ?_, fun d mem => ?_⟩
    · rw [flushes.key, flushes.events, flushes.issued, flushes.epoch, flushes.covers]
      exact keyed.remembered
    · rw [flushes.events, flushes.issued, flushes.epoch, flushes.queued]
      exact keyed.waiting
    · rw [flushes.issued, flushes.epoch]
      rcases flushes.channel frame mem with before | ⟨d, waits, node, id, rfl⟩
      · exact keyed.channel frame before
      · exact key.more (covered d waits)
    · rw [flushes.written, flushes.issued]
      exact keyed.written
    · rw [flushes.queued]
      rcases flushes.deferred d mem with before | waits
      · cases before
      · exact keyed.serials d waits

theorem applyDue_none {frame : FromRadio} {key : Passkey} (carried : harvestSessionPasskey frame = some key)
    (l : AdminLink) : l.applyDue frame = none := by
  unfold applyDue
  split
  · next due =>
    rw [due.2] at carried
    cases carried
  · rfl

theorem autoApply_idle {frame : FromRadio} (idle : l.applyDue frame = none) (t : Turn) :
    l.autoApply t frame = l := by
  unfold autoApply
  rw [idle]

theorem Keyed.autoApply {t : Turn} {frame : FromRadio} (keyed : Keyed l) (timely : Timely t frame l) :
    Keyed (l.autoApply t frame) := by
  rcases timely.queueing with ⟨idle, _⟩ | none
  · rw [autoApply_idle idle]
    exact keyed
  · exact keyed.queues (queues_autoApply t frame l) (.inr none)

/-- The key of the frame itself, or the one remembered. -/
theorem Keyed.harvest {t : Turn} {frame : FromRadio} (keyed : Keyed l) (timely : Timely t frame l)
    (own : ∀ key, harvestSessionPasskey frame = some key → l.events.any loss = false →
      Issued l.issued l.epoch key l.queuedWrites) :
    Keyed ((l.autoApply t frame).harvest frame) ∧ Ready ((l.autoApply t frame).harvest frame) := by
  unfold AdminLink.harvest
  split
  · next key carried =>
    rw [autoApply_idle (applyDue_none carried l)]
    refine ⟨⟨fun _ connected => own key carried connected, keyed.waiting, keyed.channel, keyed.written,
      keyed.serials⟩, fun _ some_wait => ⟨?_, keyed.serials⟩⟩
    cases lost : l.events.any loss with
    | false => rfl
    | true =>
        rcases timely.connected lost with ⟨empty, _⟩ | ⟨keyless, _⟩
        · exact absurd empty some_wait
        · rw [carried] at keyless
          cases keyless
  · next keyless =>
    refine ⟨keyed.autoApply timely, fun known some_wait => ?_⟩
    rw [(queues_autoApply t frame l).key] at known
    obtain ⟨idle, covered⟩ := (timely.remembered keyless).resolve_left known
    rw [autoApply_idle idle] at some_wait ⊢
    refine ⟨?_, covered⟩
    cases lost : l.events.any loss with
    | false => rfl
    | true =>
        rcases timely.connected lost with ⟨empty, _⟩ | ⟨_, unknown⟩
        · exact absurd empty some_wait
        · exact absurd unknown known

/-- The answer keeps a key that the loop has harvested already. -/
theorem captureKey_harvested {frame : FromRadio} {data : Data} (admin : frame.adminData = some data)
    (known : ∀ key, harvestSessionPasskey frame = some key → l.lastSessionPasskey = key) :
    l.captureKey data.payload = l := by
  unfold captureKey
  split
  · next msg decoded =>
    split
    · rfl
    · next carries =>
      have carried : harvestSessionPasskey frame = some msg.sessionPasskey := by
        simp [harvestSessionPasskey, admin, decoded, carries]
      rw [← known _ carried]
  · rfl

theorem settles_answer {frame : FromRadio}
    (known : ∀ key, harvestSessionPasskey frame = some key → l.lastSessionPasskey = key) :
    Settles l (l.tryHandleAdminResponse frame).2 := by
  unfold tryHandleAdminResponse
  split
  · next data admin =>
    split
    · rw [captureKey_harvested admin known]
      exact (settles_idle l).trans (settles_tell _ _ _ _)
    · exact .refl l
  · exact .refl l

theorem harvested_known (t : Turn) {frame : FromRadio} {key : Passkey}
    (carried : harvestSessionPasskey frame = some key) (l : AdminLink) :
    ((l.harvest frame).flush t).lastSessionPasskey = key := by
  have harvested : (l.harvest frame).lastSessionPasskey = key := by
    unfold AdminLink.harvest
    rw [carried]
  rcases flush_cases t (l.harvest frame) with same | ⟨_, _, flushes⟩
  · rw [same]
    exact harvested
  · exact flushes.key.trans harvested

theorem flush_events (t : Turn) (l : AdminLink) : (l.flush t).events = l.events := by
  rcases flush_cases t l with same | ⟨_, _, flushes⟩
  · rw [same]
  · exact flushes.events

theorem harvest_events (frame : FromRadio) (l : AdminLink) : (l.harvest frame).events = l.events := by
  unfold AdminLink.harvest
  split <;> rfl

theorem Keyed.processFrame {t : Turn} {frame : FromRadio} (keyed : Keyed l) (timely : Timely t frame l)
    (own : ∀ key, harvestSessionPasskey frame = some key → l.events.any loss = false →
      Issued l.issued l.epoch key l.queuedWrites) : Keyed (l.processFrame t frame) := by
  obtain ⟨harvested, ready⟩ := keyed.harvest timely own
  have flushed := harvested.flush ready t
  have answer := settles_answer fun key (carried : harvestSessionPasskey frame = some key) =>
    harvested_known t carried (l.autoApply t frame)
  have answered := flushed.settles answer
  have behind : ((((l.autoApply t frame).harvest frame).flush t).tryHandleAdminResponse frame).2.events =
      l.events := by
    rw [answer.events, flush_events, harvest_events, (queues_autoApply t frame l).events]
  unfold AdminLink.processFrame
  dsimp only
  split
  · next consumed =>
    rw [consumed] at answered
    exact answered
  · next passed =>
    rw [passed] at answered behind
    rcases timely.queueing with ⟨_, calm⟩ | none
    · exact answered.settles (settles_handleFromRadio calm frame _)
    · exact answered.queues (queues_handleFromRadio t frame _) (.inr (behind ▸ none))

/-- A connection that goes takes its keys with it, and no write waits in the channel for the next. -/
theorem Keyed.drop (keyed : Keyed l) (rest : List ToRadio)
    (plain : ∀ frame ∈ rest, writeSerial frame = none) : Keyed ({ l with channel := rest }.drop) where
  remembered := by
    intro _ connected
    have lost : (l.events ++ [ClientEvent.disconnected true]).any loss = false := connected
    simp [loss] at lost
  waiting := by
    have none : waitingKeys (l.events ++ [.disconnected true]) = [] := waitingKeys_lost l.events true
    intro key mem
    have mem : key ∈ waitingKeys (l.events ++ [.disconnected true]) := mem
    rw [none] at mem
    cases mem
  channel := fun frame mem => fresh_plain (plain frame mem)
  written := keyed.written
  serials := keyed.serials

theorem Keyed.connect (keyed : Keyed l) (node : NodeNum) :
    Keyed { l with peer := some node, events := l.events ++ [.connected] } where
  remembered := by
    intro known connected
    have before : (l.events ++ [ClientEvent.connected]).any loss = false := connected
    rw [List.any_append, Bool.or_eq_false_iff] at before
    exact keyed.remembered known before.1
  waiting := by
    have same : waitingKeys (l.events ++ [.connected]) = waitingKeys l.events := by
      rw [waitingKeys_append _ rfl]
      exact List.append_nil _
    intro key mem
    exact keyed.waiting key (same ▸ mem)
  channel := keyed.channel
  written := keyed.written
  serials := keyed.serials

theorem issues_carried {frame : FromRadio} {key : Passkey} (own : l.issues frame ≠ [])
    (carried : harvestSessionPasskey frame = some key) :
    l.issues frame = [⟨key, l.epoch, l.queuedWrites⟩] := by
  cases frame with
  | packet received =>
      unfold issues at own ⊢
      rw [carried] at own ⊢
      dsimp only at own ⊢
      split at own
      · next peer => rw [if_pos peer]
      · exact absurd rfl own
  | myInfo num => cases carried
  | nodeInfo num user => cases carried
  | config config => cases carried
  | configCompleteId => cases carried
  | other => cases carried

theorem Keyed.receive {frame : FromRadio} (keyed : Keyed l)
    (own : harvestSessionPasskey frame = none ∨ l.issues frame ≠ []) :
    Keyed { l with events := l.events ++ [.fromRadio frame], issued := l.issued ++ l.issues frame } where
  remembered := by
    intro known connected
    have before : (l.events ++ [ClientEvent.fromRadio frame]).any loss = false := connected
    rw [List.any_append, Bool.or_eq_false_iff] at before
    exact (keyed.remembered known before.1).later (List.subset_append_left _ _)
  waiting := by
    intro key mem
    have mem : key ∈ waitingKeys (l.events ++ [.fromRadio frame]) := mem
    rw [waitingKeys_append _ rfl] at mem
    rcases List.mem_append.mp mem with before | last
    · exact (keyed.waiting key before).later (List.subset_append_left _ _)
    · have carried : harvestSessionPasskey frame = some key := by
        simpa [waitingKeys] using last
      rcases own with keyless | own
      · rw [carried] at keyless
        cases keyless
      · have issue := issues_carried own carried
        refine ⟨⟨key, l.epoch, l.queuedWrites⟩, ?_, rfl, rfl, le_rfl⟩
        show _ ∈ l.issued ++ l.issues frame
        rw [issue]
        exact List.mem_append_right _ (List.mem_singleton_self _)
  channel := fun f mem => (keyed.channel f mem).later (List.subset_append_left _ _)
  written := fun w mem => (keyed.written w mem).later (List.subset_append_left _ _)
  serials := keyed.serials

theorem Keyed.write {frame : ToRadio} {rest : List ToRadio} (keyed : Keyed l)
    (first : l.channel = frame :: rest) :
    Keyed { l with channel := rest, written := l.written ++ [⟨frame, l.epoch⟩] } where
  remembered := keyed.remembered
  waiting := keyed.waiting
  channel := fun later mem => keyed.channel later (first ▸ List.mem_cons_of_mem _ mem)
  written := by
    intro w mem
    rcases List.mem_append.mp mem with before | last
    · exact keyed.written w before
    · rw [List.mem_singleton.mp last]
      exact keyed.channel frame (first ▸ List.mem_cons_self)
  serials := keyed.serials

theorem Keyed.behind {event : ClientEvent} {rest : List ClientEvent} (keyed : Keyed l)
    (first : l.events = event :: rest) (kept : loss event = false) : Keyed { l with events := rest } where
  remembered := by
    intro known connected
    have connected : rest.any loss = false := connected
    apply keyed.remembered known
    rw [first, List.any_cons, kept, connected]
    rfl
  waiting := fun key mem => keyed.waiting key (first ▸ waitingKeys_tail event rest mem)
  channel := keyed.channel
  written := keyed.written
  serials := keyed.serials

/-- The key goes with the loss that is handled. -/
theorem Keyed.disconnected {willRetry : Bool} {rest : List ClientEvent} (keyed : Keyed l)
    (first : l.events = .disconnected willRetry :: rest) (t : Turn) :
    Keyed ({ l with events := rest }.handleEvent t (.disconnected willRetry)) := by
  have forgotten : Keyed { l with events := rest, lastSessionPasskey := [] } :=
    ⟨fun known => absurd rfl known,
      fun key mem => keyed.waiting key (first ▸ waitingKeys_tail _ rest mem), keyed.channel,
      keyed.written, keyed.serials⟩
  have dropped := (settles_failPending { l with events := rest }).trans (settles_discard _)
  have closed : Settles { l with events := rest, lastSessionPasskey := [] }
      { ({ l with events := rest } : AdminLink).failPending.discardDeferredWritesOnDisconnect with
        sessionRequested := false, sessionRequestedAt := none, lastSessionPasskey := [],
        autoApplied := false } :=
    ⟨⟨rfl, dropped.covers, dropped.events, dropped.epoch, dropped.issued, dropped.written,
      dropped.queued, dropped.deferred, dropped.channel, dropped.uses⟩, dropped.same⟩
  cases willRetry with
  | true => exact forgotten.settles closed
  | false => exact forgotten.settles (closed.trans (settles_stop _))

theorem Keyed.process {event : ClientEvent} {rest : List ClientEvent} {t : Turn} (keyed : Keyed l)
    (first : l.events = event :: rest) (careful : Careful (.process t) l) :
    Keyed ({ l with events := rest }.handleEvent t event) := by
  cases event with
  | connected =>
      exact (keyed.behind first rfl).settles (settles_of_same rfl rfl rfl rfl rfl rfl rfl rfl rfl)
  | disconnected willRetry => exact keyed.disconnected first t
  | fromRadio frame =>
      have timely : Timely t frame { l with events := rest } := by
        simp only [Careful, first] at careful
        exact careful
      refine (keyed.behind first rfl).processFrame timely fun key carried connected => ?_
      have connected : rest.any loss = false := connected
      apply keyed.waiting key
      rw [first, waitingKeys, connected, carried]
      exact List.mem_cons_self

theorem Keyed.take {id : RequestId} {rest : List RequestId} {req : MeshtasticAdminRequest} {t : Turn}
    (keyed : Keyed l) (first : l.adminChannel = id :: rest) (request : l.requests[id]? = some req)
    (careful : Careful (.take t) l) : Keyed ({ l with adminChannel := rest }.takeRequest t id req) := by
  have behind : Keyed { l with adminChannel := rest } :=
    keyed.settles (settles_of_same rfl rfl rfl rfl rfl rfl rfl rfl rfl)
  obtain ⟨queues, settles⟩ := queues_takeRequest { l with adminChannel := rest } t id req
  rcases careful with unknown | read | none
  · have rejected : Settles { l with adminChannel := rest }
        ({ l with adminChannel := rest }.takeRequest t id req) := by
      have unknown : ({ l with adminChannel := rest } : AdminLink).myNodeNum = none := unknown
      unfold takeRequest rejectNoNum
      rw [unknown]
      dsimp only
      split
      · exact settles_tell _ _ _ _
      · exact settles_tell _ _ _ _
    exact behind.settles rejected
  · have read : isRead req = true := by
      simpa [first, request] using read
    exact behind.settles (settles read)
  · exact behind.queues queues (.inr none)

theorem Keyed.step {label : Label} (keyed : Keyed l) (careful : Careful label l)
    (next : Steps label l l') : Keyed l' := by
  cases label with
  | call req =>
      simp only [Steps, AdminLink.step] at next
      split at next
      · cases next
        exact keyed.settles (settles_of_same rfl rfl rfl rfl rfl rfl rfl rfl rfl)
      · cases next
  | take t =>
      simp only [Steps, AdminLink.step] at next
      split at next
      · next id rest running first =>
        obtain ⟨req, request, rfl⟩ := Option.map_eq_some_iff.mp next
        exact keyed.take first request careful
      · cases next
  | timeout id =>
      simp only [Steps, AdminLink.step] at next
      split at next
      · cases next
        exact keyed.settles (settles_of_same rfl rfl rfl rfl rfl rfl rfl rfl rfl)
      · cases next
  | reap now =>
      simp only [Steps, AdminLink.step] at next
      split at next
      · cases next
        exact keyed.settles (settles_reap l now)
      · cases next
  | other =>
      cases next
      exact keyed.settles (settles_send _ rfl l)
  | write =>
      simp only [Steps, AdminLink.step] at next
      split at next
      · next frame rest first =>
        split at next
        · cases next
          exact keyed.write first
        · cases next
      · cases next
  | writeError =>
      simp only [Steps, AdminLink.step] at next
      split at next
      · next frame rest first =>
        split at next
        · cases next
          refine keyed.drop rest fun later mem => careful later ?_
          rw [first]
          exact mem
        · cases next
      · cases next
  | receive frame =>
      simp only [Steps, AdminLink.step] at next
      split at next
      · cases next
        exact keyed.receive careful
      · cases next
  | process t =>
      simp only [Steps, AdminLink.step] at next
      split at next
      · next event rest running first =>
        cases next
        exact keyed.process first careful
      · cases next
  | disconnect =>
      cases next
      exact keyed.drop l.channel careful
  | reconnect node =>
      simp only [Steps, AdminLink.step] at next
      split at next
      · cases next
      · cases next
        exact keyed.connect node
  | shutdown =>
      simp only [Steps, AdminLink.step] at next
      split at next
      · cases next
        exact keyed.settles (settles_stop l)
      · cases next

end SupplyDrop.Proof.AdminWrites
