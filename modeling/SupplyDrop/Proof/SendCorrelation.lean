import Mathlib
import SupplyDrop.Library.Run
import SupplyDrop.Mesh.Link

namespace SupplyDrop.Proof.SendCorrelation
open Library Mesh Mesh.Link

/-! ## Correlation -/

/-- A `Sent` frame the transport is about to process meets the record of its own send. -/
def PairsSent (l : Link) : Prop :=
  ∀ id crc timeoutMs, l.events.head? = some (.frame (.sent id crc timeoutMs)) →
    l.tracker.awaitingSent.head?.map (·.id) = some id

/-- Under every CRC the tracker keeps the very send that the radio gave this CRC, so an ACK confirms
its own message. -/
def AcksOwn (l : Link) : Prop :=
  ∀ crc rec, (crc, rec) ∈ l.tracker.awaitingAck → (rec.id, crc) ∈ l.answered

/-- What waits to be resent is a send the radio accepted. -/
def RetriesOwn (l : Link) : Prop :=
  ∀ rec ∈ l.retrying, ∃ crc, (rec.id, crc) ∈ l.answered

/-! ## Text sends in flight -/

def textId : OutboundFrame → Option Nat
  | .sendTxtMsg id .. => some id
  | .command => none

def sentId : InboundFrame → Option Nat
  | .sent id .. => some id
  | _ => none

def eventId : ClientEvent → Option Nat
  | .frame frame => sentId frame
  | _ => none

/-- The sends the tracker has no answer for yet, oldest first: answered and queued, answered and on
the way, written, and not written yet. -/
def unanswered (l : Link) : List Nat :=
  l.events.filterMap eventId ++ l.inbound.filterMap sentId ++ l.wire.filterMap textId ++
    l.channel.filterMap textId

/-- No answer to a text send is lost with the connection. -/
def NothingPending (l : Link) : Prop :=
  l.wire.filterMap textId = [] ∧ l.inbound.filterMap sentId = []

/-- The steps that keep the tracker's queue and the radio's answers in step. -/
def Allowed : Label → Link → Prop
  | .disconnect, l => NothingPending l
  | .writeError, l => NothingPending l ∧ l.channel.head?.bind textId = none
  | .answerErr _, l => l.wire.head?.bind textId = none
  | _, _ => True

structure Tracked (l : Link) : Prop where
  enabled : l.tracker.retriesEnabled = true
  fifo : l.tracker.awaitingSent.map (·.id) = unanswered l
  sentInbound : ∀ id crc timeoutMs, .sent id crc timeoutMs ∈ l.inbound → (id, crc) ∈ l.answered
  sentEvents : ∀ id crc timeoutMs, .frame (.sent id crc timeoutMs) ∈ l.events →
    (id, crc) ∈ l.answered
  acks : AcksOwn l
  retries : RetriesOwn l

theorem tracked_initial {cfg : RetryConfig} (enabled : 1 < cfg.maxAttempts) :
    Tracked (initial cfg) where
  enabled := decide_eq_true enabled
  fifo := rfl
  sentInbound := by simp [initial]
  sentEvents := by simp [initial]
  acks := by simp [AcksOwn, initial, SendTracker.new]
  retries := by simp [RetriesOwn, initial]

theorem Tracked.pairs {l : Link} (h : Tracked l) : PairsSent l := by
  intro id crc timeoutMs next
  obtain ⟨rest, queued⟩ := List.head?_eq_some_iff.mp next
  have fifo := h.fifo
  rw [unanswered, queued] at fifo
  have first := congrArg List.head? fifo
  simpa [eventId, sentId] using first

/-! ## Steps -/

theorem filterMap_cons_append {α β : Type} {f : α → Option β} (a : α) (l : List α) :
    (a :: l).filterMap f = [a].filterMap f ++ l.filterMap f :=
  List.filterMap_append (l := [a])

section Steps
variable {l : Link}

theorem tracked_enqueue (h : Tracked l) (destination : Prefix) (text : String)
    (attempt timestamp : Nat) (now : Instant) :
    Tracked (l.enqueueText destination text attempt timestamp now) := by
  have recorded : (l.enqueueText destination text attempt timestamp now).tracker =
      l.tracker.record l.nextId destination text txtTypePlain attempt now := if_pos h.enabled
  refine ⟨?_, ?_, h.sentInbound, h.sentEvents, ?_, h.retries⟩
  · rw [recorded]
    exact h.enabled
  · rw [recorded]
    simp [SendTracker.record, h.fifo, unanswered, enqueueText, textId]
  · intro crc rec mem
    rw [recorded] at mem
    exact h.acks crc rec mem

theorem tracked_drop (h : Tracked l) (nothing : NothingPending l) : Tracked l.drop := by
  refine ⟨h.enabled, ?_, by simp [drop], ?_, h.acks, h.retries⟩
  · rw [show l.drop.tracker = l.tracker from rfl, h.fifo]
    simp [unanswered, drop, nothing.1, nothing.2, eventId]
  · intro id crc timeoutMs mem
    exact h.sentEvents id crc timeoutMs (by simpa [drop] using mem)

theorem mem_putAck {acks : List (Crc × PendingSend)} {crc c : Crc} {waiting rec : PendingSend}
    (h : (c, rec) ∈ SendTracker.putAck acks crc waiting) :
    (c, rec) ∈ acks ∨ c = crc ∧ rec = waiting := by
  rcases List.mem_append.mp h with old | new
  · exact .inl (List.mem_of_mem_filter old)
  · exact .inr (Prod.mk.inj (List.mem_singleton.mp new))

/-- Taking a `Sent` frame off the queue takes its own record off the tracker. -/
theorem tracked_sent {id : Nat} {crc : Crc} {timeoutMs : Nat} {now : Instant}
    {rest : List ClientEvent} (h : Tracked l)
    (next : l.events = .frame (.sent id crc timeoutMs) :: rest) :
    Tracked ({ l with events := rest }.handleEvent now (.frame (.sent id crc timeoutMs))) := by
  have fifo := h.fifo
  simp only [unanswered, next, List.filterMap_cons, eventId, sentId, List.cons_append] at fifo
  obtain ⟨rec, waiting, queue, own, order⟩ := List.map_eq_cons_iff.mp fifo
  have given : (id, crc) ∈ l.answered :=
    h.sentEvents id crc timeoutMs (by rw [next]; exact List.mem_cons_self)
  have later : ∀ id crc timeoutMs, .frame (.sent id crc timeoutMs) ∈ rest →
      (id, crc) ∈ l.answered := fun id crc timeoutMs mem =>
    h.sentEvents id crc timeoutMs (by rw [next]; exact List.mem_cons_of_mem _ mem)
  simp only [handleEvent, SendTracker.onSent, queue]
  split
  · exact ⟨h.enabled, order, h.sentInbound, later, h.acks, h.retries⟩
  · refine ⟨h.enabled, order, h.sentInbound, later, ?_, h.retries⟩
    intro c r mem
    rcases mem_putAck mem with old | ⟨rfl, rfl⟩
    · exact h.acks c r old
    · show (rec.id, c) ∈ l.answered
      rwa [own]

theorem tracked_event {event : ClientEvent} {now : Instant} {rest : List ClientEvent}
    (h : Tracked l) (next : l.events = event :: rest) :
    Tracked ({ l with events := rest }.handleEvent now event) := by
  have later : ∀ id crc timeoutMs, .frame (.sent id crc timeoutMs) ∈ rest →
      (id, crc) ∈ l.answered := fun id crc timeoutMs mem =>
    h.sentEvents id crc timeoutMs (by rw [next]; exact List.mem_cons_of_mem _ mem)
  have unrelated (silent : eventId event = none) :
      l.tracker.awaitingSent.map (·.id) = unanswered { l with events := rest } := by
    rw [h.fifo, unanswered, next]
    simp [unanswered, silent]
  cases event with
  | connected => exact ⟨h.enabled, unrelated rfl, h.sentInbound, later, h.acks, h.retries⟩
  | disconnected => exact ⟨h.enabled, unrelated rfl, h.sentInbound, later, h.acks, h.retries⟩
  | frame frame =>
      cases frame with
      | sent id crc timeoutMs => exact tracked_sent h next
      | err code => exact ⟨h.enabled, unrelated rfl, h.sentInbound, later, h.acks, h.retries⟩
      | other => exact ⟨h.enabled, unrelated rfl, h.sentInbound, later, h.acks, h.retries⟩
      | sendConfirmed crc =>
          refine ⟨h.enabled, unrelated rfl, h.sentInbound, later, ?_, h.retries⟩
          intro c rec mem
          exact h.acks c rec (List.mem_of_mem_filter mem)

theorem tracked_retryTick (h : Tracked l) (now : Instant) :
    Tracked { l with
      tracker := (l.tracker.collectDue now).2
      retrying := l.retrying ++ (l.tracker.collectDue now).1.toRetry } := by
  refine ⟨h.enabled, h.fifo, h.sentInbound, h.sentEvents, ?_, ?_⟩
  · intro crc rec mem
    exact h.acks crc rec (List.mem_of_mem_filter mem)
  · intro rec mem
    rcases List.mem_append.mp mem with old | new
    · exact h.retries rec old
    · obtain ⟨⟨crc, r⟩, due, rfl⟩ := List.mem_map.mp (List.mem_of_mem_filter new)
      exact ⟨crc, h.acks crc r (List.mem_of_mem_filter due)⟩

theorem tracked_step {label : Label} {l' : Link} (h : Tracked l) (allowed : Allowed label l)
    (stepped : Steps label l l') : Tracked l' := by
  unfold Steps step at stepped
  cases label with
  | reply destination text timestamp now =>
      cases stepped
      exact tracked_enqueue h _ _ _ _ _
  | command =>
      cases stepped
      refine ⟨h.enabled, ?_, h.sentInbound, h.sentEvents, h.acks, h.retries⟩
      simp [h.fifo, unanswered, textId]
  | write =>
      simp only at stepped
      split at stepped
      · next frame rest queued =>
          split at stepped
          · cases stepped
            refine ⟨h.enabled, ?_, h.sentInbound, h.sentEvents, h.acks, h.retries⟩
            rw [h.fifo, unanswered, queued, filterMap_cons_append frame rest]
            simp [unanswered]
          · cases stepped
      · cases stepped
  | writeError =>
      simp only at stepped
      split at stepped
      · next frame rest queued =>
          split at stepped
          · cases stepped
            obtain ⟨nothing, head⟩ := allowed
            have silent : textId frame = none := by simpa [queued] using head
            refine tracked_drop (l := { l with channel := rest }) ?_ nothing
            refine ⟨h.enabled, ?_, h.sentInbound, h.sentEvents, h.acks, h.retries⟩
            rw [h.fifo, unanswered, queued]
            simp [unanswered, silent]
          · cases stepped
      · cases stepped
  | answerSent crc timeoutMs =>
      simp only at stepped
      split at stepped
      · next id txtType attempt timestamp destination text rest written =>
          cases stepped
          refine ⟨h.enabled, ?_, ?_, ?_, ?_, ?_⟩
          · rw [h.fifo, unanswered, written]
            simp [unanswered, textId, sentId]
          · intro i c t mem
            rcases List.mem_append.mp mem with old | new
            · exact List.mem_cons_of_mem _ (h.sentInbound i c t old)
            · cases List.mem_singleton.mp new
              exact List.mem_cons_self
          · exact fun i c t mem => List.mem_cons_of_mem _ (h.sentEvents i c t mem)
          · exact fun c rec mem => List.mem_cons_of_mem _ (h.acks c rec mem)
          · intro rec mem
            obtain ⟨c, given⟩ := h.retries rec mem
            exact ⟨c, List.mem_cons_of_mem _ given⟩
      · cases stepped
  | answerErr code =>
      simp only at stepped
      split at stepped
      · next frame rest written =>
          cases stepped
          have silent : textId frame = none := by simpa [Allowed, written] using allowed
          refine ⟨h.enabled, ?_, ?_, h.sentEvents, h.acks, h.retries⟩
          · rw [h.fifo, unanswered, written]
            simp [unanswered, silent, sentId]
          · intro i c t mem
            exact h.sentInbound i c t (by simpa using mem)
      · cases stepped
  | answerOther =>
      simp only at stepped
      split at stepped
      · next rest written =>
          cases stepped
          refine ⟨h.enabled, ?_, ?_, h.sentEvents, h.acks, h.retries⟩
          · rw [h.fifo, unanswered, written]
            simp [unanswered, List.filterMap_cons, textId, sentId]
          · intro i c t mem
            exact h.sentInbound i c t (by simpa using mem)
      · cases stepped
  | push frame =>
      simp only at stepped
      split at stepped
      · cases stepped
      · next unasked =>
          split at stepped
          · cases stepped
            have silent : sentId frame = none := by
              cases frame with
              | sent id crc timeoutMs => exact absurd rfl (unasked id crc timeoutMs)
              | _ => rfl
            refine ⟨h.enabled, ?_, ?_, h.sentEvents, h.acks, h.retries⟩
            · rw [h.fifo]
              simp [unanswered, silent]
            · intro i c t mem
              rcases List.mem_append.mp mem with old | new
              · exact h.sentInbound i c t old
              · exact absurd (List.mem_singleton.mp new).symm (unasked i c t)
          · cases stepped
  | forward =>
      simp only at stepped
      split at stepped
      · next frame rest read =>
          cases stepped
          refine ⟨h.enabled, ?_, ?_, ?_, h.acks, h.retries⟩
          · rw [h.fifo, unanswered, read, filterMap_cons_append frame rest]
            simp [unanswered, eventId, List.filterMap_cons]
          · intro i c t mem
            exact h.sentInbound i c t (by rw [read]; exact List.mem_cons_of_mem _ mem)
          · intro i c t mem
            rcases List.mem_append.mp mem with old | new
            · exact h.sentEvents i c t old
            · obtain rfl := ClientEvent.frame.inj (List.mem_singleton.mp new)
              exact h.sentInbound i c t (by rw [read]; exact List.mem_cons_self)
      · cases stepped
  | process now =>
      simp only at stepped
      split at stepped
      · next event rest queued =>
          cases stepped
          exact tracked_event h queued
      · cases stepped
  | retryTick now =>
      simp only at stepped
      split at stepped
      · cases stepped
        exact tracked_retryTick h now
      · cases stepped
  | retry timestamp now =>
      simp only at stepped
      split at stepped
      · next rec rest taken =>
          cases stepped
          refine tracked_enqueue (l := { l with retrying := rest }) ?_ _ _ _ _ _
          refine ⟨h.enabled, h.fifo, h.sentInbound, h.sentEvents, h.acks, fun r mem => ?_⟩
          exact h.retries r (by rw [taken]; exact List.mem_cons_of_mem _ mem)
      · cases stepped
  | disconnect =>
      simp only at stepped
      split at stepped
      · cases stepped
        exact tracked_drop h allowed
      · cases stepped
  | reconnect =>
      simp only at stepped
      split at stepped
      · cases stepped
      · cases stepped
        refine ⟨h.enabled, ?_, h.sentInbound, ?_, h.acks, h.retries⟩
        · rw [h.fifo]
          simp [unanswered, eventId]
        · intro i c t mem
          exact h.sentEvents i c t (by simpa using mem)

end Steps

theorem sends_correlated {cfg : RetryConfig} (enabled : 1 < cfg.maxAttempts) {l : Link}
    (run : Reaches Steps Allowed (initial cfg) l) : PairsSent l ∧ AcksOwn l ∧ RetriesOwn l := by
  have tracked : Tracked l :=
    run.invariant (tracked_initial enabled) fun _ _ _ h allowed stepped =>
      tracked_step h allowed stepped
  exact ⟨tracked.pairs, tracked.acks, tracked.retries⟩

def retryThrice : RetryConfig := ⟨3, 3000000000, 30000000000⟩

theorem sends_correlated_answer :
    ∃ l, run [.reconnect, .reply 1 "hello" 10 0, .write, .answerSent 7 5000, .forward, .process 1]
        (initial retryThrice) = some l ∧ l.events = [.frame (.sent 0 7 5000)] ∧
      PairsSent l ∧ AcksOwn l ∧ RetriesOwn l := by
  have linked : Reaches Steps Allowed (initial retryThrice) _ :=
    .step .start (show Allowed .reconnect _ from trivial) rfl
  have replied := linked.step (show Allowed (.reply 1 "hello" 10 0) _ from trivial) rfl
  have written := replied.step (show Allowed .write _ from trivial) rfl
  have answered := written.step (show Allowed (.answerSent 7 5000) _ from trivial) rfl
  have forwarded := answered.step (show Allowed .forward _ from trivial) rfl
  have heard := forwarded.step (show Allowed (.process 1) _ from trivial) rfl
  exact ⟨_, rfl, rfl, sends_correlated (by decide) heard⟩

/-- The answer to the first reply is lost with the connection, its record stays in front of the
queue, and the answer to the second reply is taken for it. -/
theorem disconnect_shifts_pairing :
    ∃ l, run [.reconnect, .reply 1 "to alice" 10 0, .write, .disconnect, .reconnect,
        .reply 2 "to bob" 11 1, .write, .answerSent 7 5000, .forward, .process 2, .process 2,
        .process 2] (initial retryThrice) = some l ∧
      ¬ PairsSent l ∧
      (l.step (.process 2)).map (fun l => l.tracker.awaitingAck.map fun r => (r.1, r.2.text)) =
        some [(7, "to alice")] := by
  refine ⟨_, rfl, fun pairs => ?_, rfl⟩
  exact absurd (pairs 1 7 5000 rfl) (by decide)

end SupplyDrop.Proof.SendCorrelation
