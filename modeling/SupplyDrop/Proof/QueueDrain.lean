import Mathlib
import SupplyDrop.Library.Run
import SupplyDrop.Mesh.SyncChain

namespace SupplyDrop.Proof.QueueDrain
open Library Mesh.SyncChain Mesh.SyncChain.SyncLink

variable {l l' : SyncLink}

/-! ## What keeps the chain going -/

/-- The kinds that the radio's queue gives out. -/
def isMessage : InboundFrame → Bool
  | .contactMsgRecv _ => true
  | .contactMsgRecvV3 _ => true
  | .channelMsgRecv => true
  | .channelMsgRecvV3 => true
  | .unknown typeByte _ => typeByte = 27
  | _ => false

/-- Handling the event asks for the next message, whatever else is under way. -/
def Triggers (event : ClientEvent) : Prop :=
  ∀ (l : SyncLink) (claimed : Bool), .syncNextMessage ∈ (l.handleEvent claimed event).channel

def Outstanding (l : SyncLink) : Prop := .syncNextMessage ∈ l.channel ∨ .syncNextMessage ∈ l.wire

/-- A message has come from the radio, and the next request waits for it to be handled. -/
def InProcess (l : SyncLink) : Prop :=
  ∃ frame, isMessage frame ∧ Triggers (.frame frame) ∧
    (.frame frame ∈ l.events ∨ ∃ payload ∈ l.inbound, decodeInbound payload = .ok frame)

def Alive (l : SyncLink) : Prop := Outstanding l ∨ InProcess l

/-- The connection stands, and its `Connected` has been handled. -/
def Up (l : SyncLink) : Prop := l.connected = true ∧ .connected ∉ l.events

theorem receive_channel (l : SyncLink) (msg : ContactMsg) :
    (l.receive msg).channel = l.channel ++ [.syncNextMessage] := by
  unfold receive
  split <;> rfl

theorem triggers_message {frame : InboundFrame} (message : isMessage frame) :
    Triggers (.frame frame) := by
  intro l claimed
  cases frame with
  | contactMsgRecv msg => simp [handleEvent, interceptable, handleFrame, receive_channel]
  | contactMsgRecvV3 msg => simp [handleEvent, interceptable, handleFrame, receive_channel]
  | channelMsgRecv => simp [handleEvent, interceptable, handleFrame, send]
  | channelMsgRecvV3 => simp [handleEvent, interceptable, handleFrame, send]
  | unknown typeByte payload =>
      have data : typeByte = 27 := of_decide_eq_true message
      simp [handleEvent, interceptable, handleFrame, send, data]
  | ok => cases message
  | err errorCode => cases message
  | privateKey key => cases message
  | autoaddConfig config => cases message
  | noMoreMessages => cases message
  | msgWaiting => cases message
  | other typeByte => cases message

theorem triggers_connected : Triggers .connected := by
  intro l claimed
  simp [handleEvent, send]

theorem triggers_msgWaiting : Triggers (.frame .msgWaiting) := by
  intro l claimed
  simp [handleEvent, interceptable, handleFrame, send]

theorem of_need {typeByte : Byte} {needed got : Nat} {frame other : InboundFrame}
    (decoded : (if got < needed then .error (.bodyTooShort typeByte needed got) else .ok frame) =
      (.ok other : Except FrameDecodeError InboundFrame)) : other = frame := by
  split at decoded
  · cases decoded
  · cases decoded
    rfl

/-- The channel data, which the codec does not know, is known by its type byte. -/
theorem decodeOther_data (body : List Byte) : decodeOther 27 body = .ok (.unknown 27 (27 :: body)) :=
  rfl

theorem decode_queued {payload : List Byte} {frame : InboundFrame}
    (queued : payload.head?.any (· ∈ queuedTypes)) (decoded : decodeInbound payload = .ok frame) :
    isMessage frame := by
  cases payload with
  | nil => cases queued
  | cons typeByte body =>
      have kind : typeByte = 7 ∨ typeByte = 8 ∨ typeByte = 16 ∨ typeByte = 17 ∨ typeByte = 27 := by
        simpa [queuedTypes] using queued
      rcases kind with rfl | rfl | rfl | rfl | rfl
      · rw [of_need decoded]
        rfl
      · rw [of_need decoded]
        rfl
      · rw [of_need decoded]
        rfl
      · rw [of_need decoded]
        rfl
      · have data : (.unknown 27 (27 :: body) : InboundFrame) = frame :=
          Except.ok.inj ((decodeOther_data body).symm.trans decoded)
        rw [← data]
        rfl

/-! ## One step -/

/-- Nothing that keeps the chain going is lost from `l` to `l'`. -/
theorem Alive.mono (alive : Alive l) (channel : l.channel ⊆ l'.channel) (wire : l.wire ⊆ l'.wire)
    (inbound : l.inbound ⊆ l'.inbound) (events : l.events ⊆ l'.events) : Alive l' := by
  rcases alive with (waiting | written) | ⟨frame, message, triggers, received⟩
  · exact .inl (.inl (channel waiting))
  · exact .inl (.inr (wire written))
  · refine .inr ⟨frame, message, triggers, ?_⟩
    rcases received with event | ⟨payload, unread, decoded⟩
    · exact .inl (events event)
    · exact .inr ⟨payload, inbound unread, decoded⟩

theorem alive_message {frame : InboundFrame} (message : isMessage frame)
    (received : .frame frame ∈ l.events ∨ ∃ payload ∈ l.inbound, decodeInbound payload = .ok frame) :
    Alive l :=
  .inr ⟨frame, message, triggers_message message, received⟩

theorem handleFrame_channel (l : SyncLink) (frame : InboundFrame) :
    l.channel ⊆ (l.handleFrame frame).channel := by
  have send (frame : OutboundFrame) : l.channel ⊆ (l.send frame).channel :=
    List.subset_append_left _ _
  have drained : l.channel ⊆ l.drained.channel := by
    unfold SyncLink.drained
    split <;> exact List.Subset.refl _
  cases frame with
  | contactMsgRecv msg => exact receive_channel l msg ▸ List.subset_append_left _ _
  | contactMsgRecvV3 msg => exact receive_channel l msg ▸ List.subset_append_left _ _
  | channelMsgRecv => exact send _
  | channelMsgRecvV3 => exact send _
  | msgWaiting => exact send _
  | noMoreMessages => exact drained
  | err errorCode => exact drained
  | unknown typeByte payload =>
      simp only [handleFrame]
      split
      · exact send _
      · exact List.Subset.refl _
  | ok => exact List.Subset.refl _
  | privateKey key => exact List.Subset.refl _
  | autoaddConfig config => exact List.Subset.refl _
  | other typeByte => exact List.Subset.refl _

/-- What handling an event leaves alone. -/
structure Untouched (l l' : SyncLink) : Prop where
  queue : l'.queue = l.queue
  arrived : l'.arrived = l.arrived
  wire : l'.wire = l.wire
  inbound : l'.inbound = l.inbound
  events : l'.events = l.events
  connected : l'.connected = l.connected

theorem handleEvent_untouched (l : SyncLink) (claimed : Bool) (event : ClientEvent) :
    Untouched l (l.handleEvent claimed event) := by
  have drained : Untouched l l.drained := by
    unfold SyncLink.drained
    split <;> constructor <;> rfl
  have receive (msg : ContactMsg) : Untouched l (l.receive msg) := by
    unfold SyncLink.receive
    split <;> constructor <;> rfl
  have send (frame : OutboundFrame) : Untouched l (l.send frame) := by
    constructor <;> rfl
  have still : Untouched l l := by
    constructor <;> rfl
  cases event with
  | connected => constructor <;> rfl
  | disconnected => exact still
  | frame frame =>
      simp only [handleEvent]
      split
      · exact still
      cases frame with
      | contactMsgRecv msg => exact receive msg
      | contactMsgRecvV3 msg => exact receive msg
      | unknown typeByte payload =>
          simp only [handleFrame]
          split
          · exact send _
          · exact still
      | noMoreMessages => exact drained
      | err errorCode => exact drained
      | channelMsgRecv => exact send _
      | channelMsgRecvV3 => exact send _
      | msgWaiting => exact send _
      | ok => exact still
      | privateKey key => exact still
      | autoaddConfig config => exact still
      | other typeByte => exact still

theorem handleEvent_channel (l : SyncLink) (claimed : Bool) (event : ClientEvent) :
    l.channel ⊆ (l.handleEvent claimed event).channel := by
  cases event with
  | connected =>
      intro frame queued
      simp [handleEvent, send, queued]
  | disconnected => exact List.Subset.refl _
  | frame frame =>
      simp only [handleEvent]
      split
      · exact List.Subset.refl _
      · exact handleFrame_channel l frame

/-- What the radio still holds of the first `n` messages keeps the chain going while the link is up. -/
structure Chain (n : Nat) (l : SyncLink) : Prop where
  decodes : ∀ q ∈ l.queue, ∃ frame, decodeInbound q.payload = .ok frame ∧ isMessage frame
  numbered : ∀ q ∈ l.queue, q.serial < l.arrived
  started : n ≤ l.arrived
  covered : Alive l ∨ ¬Up l ∨ ∀ q ∈ l.queue, n ≤ q.serial

variable {n : Nat}

theorem chain_initial : Chain 0 initial where
  decodes := by simp [initial]
  numbered := by simp [initial]
  started := le_refl _
  covered := .inr (.inr (by simp [initial]))

theorem Chain.restart (chain : Chain n l) (alive : Alive l) : Chain l.arrived l :=
  ⟨chain.decodes, chain.numbered, le_refl _, .inl alive⟩

theorem Chain.covers (chain : Chain n l) (queue : l'.queue = l.queue) (arrived : l'.arrived = l.arrived)
    (covered : Alive l' ∨ ¬Up l' ∨ ∀ q ∈ l'.queue, n ≤ q.serial) : Chain n l' where
  decodes := queue ▸ chain.decodes
  numbered := by
    rw [queue, arrived]
    exact chain.numbered
  started := arrived ▸ chain.started
  covered := covered

/-- A step that leaves the queue and the connection alone and loses nothing that keeps the chain
going. -/
theorem Chain.quiet (chain : Chain n l) (queue : l'.queue = l.queue) (arrived : l'.arrived = l.arrived)
    (alive : Alive l → Alive l') (up : Up l' → Up l ∨ Alive l') : Chain n l' := by
  apply chain.covers queue arrived
  rcases chain.covered with going | down | past
  · exact .inl (alive going)
  · by_cases now : Up l'
    · rcases up now with before | going
      · exact absurd before down
      · exact .inl going
    · exact .inr (.inl now)
  · exact .inr (.inr (queue ▸ past))

theorem Chain.arrive (chain : Chain n l) {payload : List Byte}
    (queued : payload.head?.any (· ∈ queuedTypes)) (decodes : (decodeInbound payload).isOk) :
    Chain n { l with queue := l.queue ++ [⟨l.arrived, payload⟩], arrived := l.arrived + 1 } where
  decodes := by
    intro q held
    rcases List.mem_append.mp held with before | last
    · exact chain.decodes q before
    · cases List.mem_singleton.mp last
      obtain ⟨frame, decoded⟩ : ∃ frame, decodeInbound payload = .ok frame := by
        cases eq : decodeInbound payload with
        | ok frame => exact ⟨frame, rfl⟩
        | error e =>
            rw [eq] at decodes
            cases decodes
      exact ⟨frame, decoded, decode_queued queued decoded⟩
  numbered := by
    intro q held
    rcases List.mem_append.mp held with before | last
    · exact Nat.lt_succ_of_lt (chain.numbered q before)
    · cases List.mem_singleton.mp last
      exact Nat.lt_succ_self _
  started := Nat.le_succ_of_le chain.started
  covered := by
    rcases chain.covered with going | down | past
    · exact .inl going
    · exact .inr (.inl down)
    · refine .inr (.inr fun q held => ?_)
      rcases List.mem_append.mp held with before | last
      · exact past q before
      · cases List.mem_singleton.mp last
        exact chain.started

theorem Chain.drop (chain : Chain n l) : Chain n l.drop :=
  chain.covers rfl rfl (.inr (.inl fun up => Bool.false_ne_true up.1))

/-- The radio gives its oldest message, or has none. -/
theorem Chain.pop (chain : Chain n l) (wire : List OutboundFrame) :
    Chain n { l with wire := wire }.pop := by
  unfold SyncLink.pop
  split
  · next oldest rest held =>
    have held : l.queue = oldest :: rest := held
    have inQueue (q : Queued) (kept : q ∈ rest) : q ∈ l.queue := held ▸ List.mem_cons_of_mem _ kept
    obtain ⟨frame, decoded, message⟩ := chain.decodes oldest (held ▸ List.mem_cons_self)
    refine ⟨fun q kept => chain.decodes q (inQueue q kept),
      fun q kept => chain.numbered q (inQueue q kept), chain.started, .inl ?_⟩
    exact alive_message message (.inr ⟨oldest.payload, by simp, decoded⟩)
  · next empty =>
    have empty : l.queue = [] := empty
    exact chain.covers rfl rfl (.inr (.inr (by simp [empty])))

theorem Chain.forward (chain : Chain n l) {payload : List Byte} {rest : List (List Byte)}
    {frame : InboundFrame} (next : l.inbound = payload :: rest)
    (decoded : decodeInbound payload = .ok frame) :
    Chain n { l with inbound := rest, events := l.events ++ [.frame frame] } := by
  refine chain.quiet rfl rfl ?_ ?_
  · rintro (going | ⟨frame', message, triggers, event | ⟨payload', unread, decoded'⟩⟩)
    · exact .inl going
    · exact alive_message message (.inl (List.mem_append_left _ event))
    · rw [next] at unread
      rcases List.mem_cons.mp unread with rfl | later
      · have same : frame' = frame := Except.ok.inj (decoded'.symm.trans decoded)
        exact alive_message message (.inl (by simp [same]))
      · exact alive_message message (.inr ⟨payload', later, decoded'⟩)
  · intro up
    exact .inl ⟨up.1, fun pending => up.2 (List.mem_append_left _ pending)⟩

theorem Chain.process (chain : Chain n l) {event : ClientEvent} {rest : List ClientEvent}
    (next : l.events = event :: rest) (claimed : Bool) :
    Chain n ({ l with events := rest }.handleEvent claimed event) := by
  generalize handled : { l with events := rest }.handleEvent claimed event = l'
  have untouched : Untouched { l with events := rest } l' := handled ▸ handleEvent_untouched _ _ _
  have channel : l.channel ⊆ l'.channel := handled ▸ handleEvent_channel { l with events := rest } _ _
  have triggered (triggers : Triggers event) : Alive l' := .inl (.inl (handled ▸ triggers _ claimed))
  refine chain.quiet untouched.queue untouched.arrived ?_ ?_
  · rintro ((waiting | written) | ⟨frame, message, triggers, received | unread⟩)
    · exact .inl (.inl (channel waiting))
    · exact .inl (.inr (untouched.wire ▸ written))
    · rw [next] at received
      rcases List.mem_cons.mp received with rfl | later
      · exact triggered triggers
      · exact alive_message message (.inl (untouched.events ▸ later))
    · exact alive_message message (.inr (untouched.inbound ▸ unread))
  · intro up
    by_cases connected : event = .connected
    · exact .inr (triggered (connected ▸ triggers_connected))
    · refine .inl ⟨untouched.connected ▸ up.1, fun pending => ?_⟩
      rw [next] at pending
      rcases List.mem_cons.mp pending with first | later
      · exact connected first.symm
      · exact up.2 (untouched.events ▸ later)

theorem Chain.step {label : Label} (chain : Chain n l) (decodes : Decodes label l)
    (next : Steps label l l') : Chain n l' := by
  cases label with
  | arrive payload =>
      simp only [Steps, SyncLink.step] at next
      split at next
      · next queued =>
        cases next
        exact chain.arrive queued decodes
      · cases next
  | push payload =>
      simp only [Steps, SyncLink.step] at next
      split at next
      · cases next
        refine chain.quiet rfl rfl (fun alive => ?_) .inl
        exact alive.mono (List.Subset.refl _) (List.Subset.refl _) (List.subset_append_left _ _)
          (List.Subset.refl _)
      · cases next
  | command frame =>
      cases next
      refine chain.quiet rfl rfl (fun alive => ?_) .inl
      exact alive.mono (List.subset_append_left _ _) (List.Subset.refl _) (List.Subset.refl _)
        (List.Subset.refl _)
  | write =>
      simp only [Steps, SyncLink.step] at next
      split at next
      · next frame rest queued =>
        split at next
        · cases next
          refine chain.quiet rfl rfl ?_ .inl
          rintro ((waiting | written) | received)
          · rw [queued] at waiting
            rcases List.mem_cons.mp waiting with rfl | later
            · exact .inl (.inr (by simp))
            · exact .inl (.inl later)
          · exact .inl (.inr (List.mem_append_left _ written))
          · exact .inr received
        · cases next
      · cases next
  | writeError =>
      simp only [Steps, SyncLink.step] at next
      split at next
      · split at next
        · cases next
          exact chain.covers rfl rfl (.inr (.inl fun up => Bool.false_ne_true up.1))
        · cases next
      · cases next
  | answer =>
      simp only [Steps, SyncLink.step] at next
      split at next
      · cases next
        exact chain.pop _
      · next frame rest other written =>
        cases next
        refine chain.quiet rfl rfl ?_ .inl
        rintro ((waiting | outstanding) | received)
        · exact .inl (.inl waiting)
        · rw [written] at outstanding
          rcases List.mem_cons.mp outstanding with first | later
          · exact absurd first.symm other
          · exact .inl (.inr later)
        · exact .inr received
      · cases next
  | forward =>
      simp only [Steps, SyncLink.step] at next
      split at next
      · next payload rest unread =>
        split at next
        · next frame decoded =>
          cases next
          exact chain.forward unread decoded
        · cases next
          exact chain.drop
      · cases next
  | process claimed =>
      simp only [Steps, SyncLink.step] at next
      split at next
      · next event rest first =>
        cases next
        exact chain.process first claimed
      · cases next
  | disconnect =>
      simp only [Steps, SyncLink.step] at next
      split at next
      · cases next
        exact chain.drop
      · cases next
  | reconnect =>
      simp only [Steps, SyncLink.step] at next
      split at next
      · cases next
      · cases next
        exact chain.covers rfl rfl (.inr (.inl fun up => up.2 (by simp)))

/-! ## Whole runs -/

theorem chain_reached (chain : Chain n l) (run : Reaches Steps Decodes l l') : Chain n l' :=
  run.invariant chain fun _ _ _ chain decodes next => chain.step decodes next

theorem triggers_told {event : ClientEvent} (told : event = .connected ∨ event = .frame .msgWaiting) :
    Triggers event := by
  rcases told with rfl | rfl
  · exact triggers_connected
  · exact triggers_msgWaiting

/-- A handled `Connected` or `MsgWaiting` leaves a request for the next message, and the chain goes on
as long as the radio holds any of the messages it had when the chain was last seen going. -/
theorem queue_drained {l₁ : SyncLink} {event : ClientEvent} {claimed : Bool}
    (run : Reaches Steps Decodes initial l) (next : l.events.head? = some event)
    (told : event = .connected ∨ event = .frame .msgWaiting)
    (handled : l.step (.process claimed) = some l₁) :
    Outstanding l₁ ∧ ∀ m l₂, Reaches Steps Decodes l₁ m → Alive m → Reaches Steps Decodes m l₂ →
      Up l₂ → (∃ q ∈ l₂.queue, q ∈ m.queue) → Outstanding l₂ ∨ InProcess l₂ := by
  have triggers := triggers_told told
  obtain ⟨rest, first⟩ := List.head?_eq_some_iff.mp next
  have asked : Outstanding l₁ := by
    simp only [SyncLink.step, first] at handled
    cases handled
    exact .inl (triggers _ claimed)
  refine ⟨asked, fun m l₂ later alive further up still => ?_⟩
  obtain ⟨q, held, before⟩ := still
  have reached : Reaches Steps Decodes initial l₁ :=
    .step run (show Decodes (.process claimed) l from trivial) handled
  have chain : Chain 0 m := chain_reached (chain_reached chain_initial reached) later
  rcases (chain_reached (chain.restart alive) further).covered with going | down | past
  · exact going
  · exact absurd up down
  · exact absurd (past q held) (Nat.not_le_of_lt (chain.numbered q before))

def after (labels : List Label) (l : SyncLink) : SyncLink :=
  labels.foldl (fun l label => (l.step label).getD l) l

/-- Channel data and an empty text came while the link was down. -/
def backlog : SyncLink := after [.arrive [27], .arrive (7 :: List.replicate 12 0), .reconnect] initial

def asked : SyncLink := after [.process false] backlog

/-- The radio has answered the first request. -/
def answered : SyncLink := after [.write, .answer] asked

theorem queue_drained_backlog :
    Outstanding asked ∧ (Outstanding answered ∨ InProcess answered) := by
  have run : Reaches Steps Decodes initial backlog :=
    .follow_taken ⟨⟨rfl, rfl⟩, ⟨rfl, rfl⟩, ⟨trivial, rfl⟩, trivial⟩
  have further : Reaches Steps Decodes asked answered :=
    .follow_taken ⟨⟨trivial, rfl⟩, ⟨trivial, rfl⟩, trivial⟩
  have drained := @queue_drained backlog asked .connected false run rfl (.inl rfl) rfl
  exact ⟨drained.1, drained.2 asked answered .start (.inl drained.1) further
    ⟨rfl, by decide⟩ ⟨⟨1, 7 :: List.replicate 12 0⟩, by decide, by decide⟩⟩

end SupplyDrop.Proof.QueueDrain
