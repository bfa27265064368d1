import Mathlib
import SupplyDrop.Library.Run
import SupplyDrop.Mesh.KeyOps

namespace SupplyDrop.Proof.ReplyAttribution
open Library Mesh.KeyOps Mesh.KeyOps.KeyLink
open Mesh (Instant)

/-! ## Whose answer a caller is told -/

/-- The command whose Ok ends a request. -/
def lastFrame : MeshKeyRequest → Option OutboundFrame
  | .exportKey => none
  | .importKey key => some (.importPrivateKey key)
  | .applyRadio params => some (.setRadioTxPower params.txPowerDbm)

/-- An Ok or an error of the device that the caller of an import or a radio change is told. -/
def Answers (l : KeyLink) (d : Delivery) : Prop :=
  (∃ req ∈ l.requests[d.request]?, req ≠ .exportKey) ∧
    (d.verdict = .ok ∨ ∃ code, d.verdict = .deviceError code)

/-- It is what the device said to a command of that very request, and an Ok what it said to the
last. -/
def OwnAnswer (l : KeyLink) (d : Delivery) : Prop :=
  ∃ sent, d.answered = some sent ∧ sent.owner = some d.request ∧
    (d.verdict = .ok → l.requests[d.request]?.bind lastFrame = some sent.frame)

def Attributed (l : KeyLink) : Prop := ∀ d ∈ l.delivered, Answers l d → OwnAnswer l d

def isExport : PendingKeyOp → Bool
  | .exportKey _ => true
  | _ => false

def bareEvent : ClientEvent → Bool
  | .frame _ frame => frame.isBare
  | _ => false

/-- While an import or a radio change is pending, the device gives no bare Ok or error to the command
of another, and none is waiting to be processed when the request is accepted. -/
def Allowed : Label → KeyLink → Prop
  | .request req _, l => l.busy = true ∨ req = .exportKey ∨ ∀ event ∈ l.events, bareEvent event = false
  | .answer frame, l => frame.isBare = true → ∀ op ∈ l.pendingKeyOp, isExport op = false →
      ∀ sent ∈ l.wire.head?, sent.owner = some op.reply
  | _, _ => True

instance : ∀ label l, Decidable (Allowed label l)
  | .request req _, l => inferInstanceAs
      (Decidable (l.busy = true ∨ req = .exportKey ∨ ∀ event ∈ l.events, bareEvent event = false))
  | .answer frame, l => inferInstanceAs
      (Decidable (frame.isBare = true → ∀ op ∈ l.pendingKeyOp, isExport op = false →
        ∀ sent ∈ l.wire.head?, sent.owner = some op.reply))
  | .own _, _ => isTrue trivial
  | .write, _ => isTrue trivial
  | .writeError, _ => isTrue trivial
  | .process _, _ => isTrue trivial
  | .retryTick _, _ => isTrue trivial
  | .disconnect, _ => isTrue trivial
  | .reconnect, _ => isTrue trivial

/-! ## The invariant -/

def answeredBy : ClientEvent → Option Sent
  | .frame sent _ => some sent
  | _ => none

/-- The commands whose answers have not been processed, in order. -/
def inFlight (l : KeyLink) : List Sent := l.events.filterMap answeredBy ++ l.wire ++ l.channel

/-- The command whose answer a pending operation waits for. -/
def current (requests : List MeshKeyRequest) : PendingKeyOp → Option OutboundFrame
  | .exportKey reply => match requests[reply]? with
      | some .exportKey => some .exportPrivateKey
      | _ => none
  | .importKey reply => match requests[reply]? with
      | some (.importKey key) => some (.importPrivateKey key)
      | _ => none
  | .applyRadio reply waitingForParams txPowerDbm => match requests[reply]? with
      | some (.applyRadio params) =>
          if txPowerDbm ≠ params.txPowerDbm then none
          else if waitingForParams then
            some (.setRadioParams params.frequencyHz params.bandwidthHz params.spreadingFactor
              params.codingRate)
          else some (.setRadioTxPower params.txPowerDbm)
      | _ => none

/-- What holds of an operation while it is pending. -/
structure Waits (l : KeyLink) (op : PendingKeyOp) : Prop where
  known : (current l.requests op).isSome
  once : (inFlight l).countP (·.owner = some op.reply) ≤ 1
  own : ∀ sent ∈ inFlight l, sent.owner = some op.reply → current l.requests op = some sent.frame
  bare : isExport op = false → ∀ sent frame, .frame sent frame ∈ l.events → frame.isBare = true →
    sent.owner = some op.reply

structure Ordered (l : KeyLink) : Prop where
  attributed : Attributed l
  told : ∀ d ∈ l.delivered, d.request < l.requests.length
  owned : ∀ sent ∈ inFlight l, ∀ id ∈ sent.owner, id < l.requests.length
  waits : ∀ op ∈ l.pendingKeyOp, Waits l op

theorem ordered_initial : Ordered initial := by
  constructor <;> simp [Attributed, initial, inFlight]

/-! ## Steps that deliver nothing -/

section Steps
variable {l l' : KeyLink}

/-- Answers may be lost, and operations given up. -/
theorem Ordered.of_fewer (h : Ordered l) (requests : l'.requests = l.requests)
    (delivered : l'.delivered = l.delivered)
    (pending : l'.pendingKeyOp = l.pendingKeyOp ∨ l'.pendingKeyOp = none)
    (flight : (inFlight l').Sublist (inFlight l))
    (events : ∀ sent frame, .frame sent frame ∈ l'.events → .frame sent frame ∈ l.events) :
    Ordered l' where
  attributed := by
    unfold Attributed Answers OwnAnswer
    rw [requests, delivered]
    exact h.attributed
  told := by
    rw [requests, delivered]
    exact h.told
  owned := by
    rw [requests]
    exact fun sent mem => h.owned sent (flight.subset mem)
  waits := by
    intro op waiting
    rcases pending with same | none_
    · rw [same] at waiting
      have waits := h.waits op waiting
      refine ⟨?_, ?_, ?_, ?_⟩
      · rw [requests]
        exact waits.known
      · exact (flight.countP_le).trans waits.once
      · rw [requests]
        exact fun sent mem => waits.own sent (flight.subset mem)
      · exact fun kind sent frame mem => waits.bare kind sent frame (events sent frame mem)
    · rw [none_] at waiting
      cases waiting

theorem inFlight_send (l : KeyLink) (frame : OutboundFrame) (owner : Option RequestId) :
    inFlight (l.send frame owner) = inFlight l ++ [⟨frame, owner⟩] := by
  simp [inFlight, send]

theorem ordered_own (h : Ordered l) (frame : OutboundFrame) : Ordered (l.send frame none) where
  attributed := h.attributed
  told := h.told
  owned := by
    intro sent mem
    rw [inFlight_send] at mem
    rcases List.mem_append.mp mem with old | new
    · exact h.owned sent old
    · rw [List.mem_singleton.mp new]
      simp
  waits := by
    intro op waiting
    have waits := h.waits op waiting
    refine ⟨waits.known, ?_, ?_, waits.bare⟩
    · rw [inFlight_send, List.countP_append]
      simpa using waits.once
    · intro sent mem owner
      rw [inFlight_send] at mem
      rcases List.mem_append.mp mem with old | new
      · exact waits.own sent old owner
      · rw [List.mem_singleton.mp new] at owner
        cases owner

theorem current_reply {requests : List MeshKeyRequest} {op : PendingKeyOp}
    (known : (current requests op).isSome) : op.reply < requests.length := by
  by_contra out
  have none_ : requests[op.reply]? = none := List.getElem?_eq_none (not_lt.mp out)
  cases op <;> simp_all [current, PendingKeyOp.reply]

theorem current_append {requests : List MeshKeyRequest} {op : PendingKeyOp}
    (known : (current requests op).isSome) (req : MeshKeyRequest) :
    current (requests ++ [req]) op = current requests op := by
  have same : (requests ++ [req])[op.reply]? = requests[op.reply]? :=
    List.getElem?_append_left (current_reply known)
  cases op <;> simp only [current, PendingKeyOp.reply] at same ⊢ <;> rw [same]

theorem ordered_register (h : Ordered l) (req : MeshKeyRequest) :
    Ordered { l with requests := l.requests ++ [req] } where
  attributed := by
    intro d mem answers
    have same : (l.requests ++ [req])[d.request]? = l.requests[d.request]? :=
      List.getElem?_append_left (h.told d mem)
    unfold Answers OwnAnswer at *
    dsimp only at answers ⊢
    rw [same] at answers ⊢
    exact h.attributed d mem answers
  told := by
    intro d mem
    rw [List.length_append]
    exact Nat.lt_add_right _ (h.told d mem)
  owned := by
    intro sent mem id owner
    rw [List.length_append]
    exact Nat.lt_add_right _ (h.owned sent mem id owner)
  waits := by
    intro op waiting
    have waits := h.waits op waiting
    have same := current_append waits.known req
    refine ⟨?_, waits.once, ?_, waits.bare⟩
    · dsimp only
      rw [same]
      exact waits.known
    · dsimp only
      rw [same]
      exact waits.own

theorem ordered_deliver (h : Ordered l) {request : RequestId} {verdict : Verdict}
    {answered : Option Sent} (known : request < l.requests.length)
    (own : Answers l ⟨request, verdict, answered⟩ → OwnAnswer l ⟨request, verdict, answered⟩) :
    Ordered (l.deliver request verdict answered) where
  attributed := by
    intro d mem answers
    rcases List.mem_append.mp mem with old | new
    · exact h.attributed d old answers
    · rw [List.mem_singleton.mp new] at answers ⊢
      exact own answers
  told := by
    intro d mem
    rcases List.mem_append.mp mem with old | new
    · exact h.told d old
    · rw [List.mem_singleton.mp new]
      exact known
  owned := h.owned
  waits := fun op waiting => ⟨(h.waits op waiting).known, (h.waits op waiting).once,
    (h.waits op waiting).own, (h.waits op waiting).bare⟩

theorem ordered_settle (h : Ordered l) {op : PendingKeyOp} (waiting : l.pendingKeyOp = some op)
    {verdict : Verdict} {answered : Option Sent}
    (own : Answers l ⟨op.reply, verdict, answered⟩ → OwnAnswer l ⟨op.reply, verdict, answered⟩) :
    Ordered (l.settle op verdict answered) := by
  have known := current_reply (h.waits op waiting).known
  have idle : Ordered { l with pendingKeyOp := none, pendingKeyOpSince := none } :=
    h.of_fewer rfl rfl (.inr rfl) (.refl _) fun _ _ mem => mem
  exact ordered_deliver idle known own

theorem told_otherwise {request : RequestId} {verdict : Verdict} {answered : Option Sent}
    (ok : verdict ≠ .ok) (device : ∀ code, verdict ≠ .deviceError code) :
    Answers l ⟨request, verdict, answered⟩ → OwnAnswer l ⟨request, verdict, answered⟩ := by
  rintro ⟨-, same | ⟨code, same⟩⟩
  · exact (ok same).elim
  · exact (device code same).elim

theorem ordered_clearAutoadd (h : Ordered l) : Ordered l.clearAutoadd :=
  h.of_fewer rfl rfl (.inl rfl) (.refl _) fun _ _ mem => mem

theorem ordered_pendingAutoadd (h : Ordered l) (pending : Option PendingAutoadd)
    (since : Option Instant) :
    Ordered { l with pendingAutoadd := pending, pendingAutoaddSince := since } :=
  h.of_fewer rfl rfl (.inl rfl) (.refl _) fun _ _ mem => mem

theorem ordered_probe (h : Ordered l) (now : Instant) : Ordered (l.tryStartAutoaddProbe now) := by
  unfold tryStartAutoaddProbe
  split
  · exact h
  · exact ordered_pendingAutoadd (ordered_own h .getAutoaddConfig) _ _

theorem ordered_autoaddConfig (h : Ordered l) (config : BitVec 8) (now : Instant) :
    Ordered (l.autoaddConfig config now) := by
  unfold autoaddConfig
  split
  · exact h
  · split
    · split
      · exact ordered_clearAutoadd h
      · exact ordered_pendingAutoadd (ordered_own (ordered_clearAutoadd h) _) _ _
    · exact ordered_clearAutoadd h

theorem ordered_autoaddOk (h : Ordered l) : Ordered l.autoaddOk := by
  unfold autoaddOk
  split
  · exact ordered_clearAutoadd h
  · exact h

theorem ordered_retryTick (h : Ordered l) (now : Instant) : Ordered (l.retryTick now) := by
  have cleared : Ordered (l.expireAutoadd now) := by
    unfold expireAutoadd
    split
    · exact ordered_clearAutoadd h
    · exact h
  unfold retryTick expireKeyOp
  split
  · split
    · next op waiting =>
      exact ordered_settle cleared waiting (told_otherwise (by simp) (by simp))
    · exact cleared
  · exact cleared

/-! ## A request -/

theorem ordered_await (h : Ordered l) {op : PendingKeyOp} {frame : OutboundFrame}
    (since : Option Instant) (known : current l.requests op = some frame)
    (fresh : ∀ sent ∈ inFlight l, sent.owner ≠ some op.reply)
    (bare : isExport op = false → ∀ sent answer, .frame sent answer ∈ l.events →
      answer.isBare = true → sent.owner = some op.reply) :
    Ordered { l.send frame (some op.reply) with
      pendingKeyOp := some op, pendingKeyOpSince := since } := by
  have flight := inFlight_send l frame (some op.reply)
  have isSome : (current l.requests op).isSome := by rw [known]; rfl
  refine ⟨h.attributed, h.told, ?_, ?_⟩
  · intro sent mem id owner
    rcases List.mem_append.mp (flight ▸ mem) with old | new
    · exact h.owned sent old id owner
    · rw [List.mem_singleton.mp new] at owner
      cases owner
      exact current_reply isSome
  · rintro op' waiting
    cases waiting
    refine ⟨isSome, ?_, ?_, bare⟩
    · have none_ : (inFlight l).countP (·.owner = some op.reply) = 0 := by
        rw [List.countP_eq_zero]
        simpa using fresh
      have total : (inFlight (l.send frame (some op.reply))).countP
          (·.owner = some op.reply) = 1 := by
        rw [flight, List.countP_append, none_]
        simp
      exact total.le
    · intro sent mem owner
      rcases List.mem_append.mp (flight ▸ mem) with old | new
      · exact (fresh sent old owner).elim
      · rw [List.mem_singleton.mp new]
        exact known

theorem ordered_begin (h : Ordered l) {op : PendingKeyOp} {frame : OutboundFrame} (now : Instant)
    (known : current l.requests op = some frame)
    (fresh : ∀ sent ∈ inFlight l, sent.owner ≠ some op.reply)
    (quiet : isExport op = false → ∀ event ∈ l.events, bareEvent event = false) :
    Ordered (l.begin op frame now) := by
  apply ordered_await h (some now) known fresh
  intro kind sent answer mem bare
  have loud := quiet kind _ mem
  rw [bareEvent, bare] at loud
  cases loud

theorem ordered_request (h : Ordered l) (req : MeshKeyRequest) (now : Instant)
    (allowed : Allowed (.request req now) l) : Ordered (l.request req now) := by
  have registered := ordered_register h req
  have fresh : ∀ sent ∈ inFlight { l with requests := l.requests ++ [req] },
      sent.owner ≠ some l.requests.length := by
    intro sent mem owner
    exact lt_irrefl _ (h.owned sent mem _ owner)
  unfold request
  dsimp only
  split
  · apply ordered_deliver registered
    · simp
    · exact told_otherwise (by simp) (by simp)
  · next idle =>
    have quiet : req = .exportKey ∨ ∀ event ∈ l.events, bareEvent event = false := by
      rcases allowed with taken | rest
      · exact (idle taken).elim
      · exact rest
    cases req with
    | exportKey =>
        exact ordered_begin registered now (by simp [current]) fresh nofun
    | importKey key =>
        exact ordered_begin registered now (by simp [current]) fresh
          fun _ => quiet.resolve_left nofun
    | applyRadio params =>
        exact ordered_begin registered now (by simp [current]) fresh
          fun _ => quiet.resolve_left nofun

/-! ## An answer -/

theorem export_told (h : Ordered l) {reply : RequestId}
    (waiting : l.pendingKeyOp = some (.exportKey reply)) (verdict : Verdict)
    (answered : Option Sent) : ¬ Answers l ⟨reply, verdict, answered⟩ := by
  rintro ⟨⟨req, at_, other⟩, -⟩
  have known := (h.waits _ waiting).known
  simp only [current, Option.mem_def.mp at_] at known
  cases req <;> simp_all

theorem current_import {requests : List MeshKeyRequest} {reply : RequestId} {frame : OutboundFrame}
    (known : current requests (.importKey reply) = some frame) :
    requests[reply]?.bind lastFrame = some frame := by
  rcases at_ : requests[reply]? with _ | ⟨_ | _ | _⟩ <;> simp_all [current, lastFrame]

theorem current_apply {requests : List MeshKeyRequest} {reply : RequestId} {power : Int}
    {frame : OutboundFrame} (known : current requests (.applyRadio reply false power) = some frame) :
    requests[reply]?.bind lastFrame = some frame := by
  rcases at_ : requests[reply]? with _ | ⟨_ | _ | _⟩ <;> simp_all [current, lastFrame]

theorem current_second {requests : List MeshKeyRequest} {reply : RequestId} {power : Int}
    (known : (current requests (.applyRadio reply true power)).isSome) :
    current requests (.applyRadio reply false power) = some (.setRadioTxPower power) := by
  rcases at_ : requests[reply]? with _ | ⟨_ | _ | _⟩ <;> simp_all [current]

section Answer
variable {sent : Sent} {frame : InboundFrame}

/-- The answer meets the import or the radio change whose command it answers, the only one that is
out for it. -/
structure Meets (l : KeyLink) (sent : Sent) (op : PendingKeyOp) : Prop where
  owner : sent.owner = some op.reply
  command : current l.requests op = some sent.frame
  alone : ∀ other ∈ inFlight l, other.owner ≠ some op.reply

theorem ordered_ok (h : Ordered l)
    (meets : ∀ op, l.pendingKeyOp = some op → isExport op = false → Meets l sent op)
    (now : Instant) : Ordered (l.handleFrame sent now .ok) := by
  simp only [handleFrame]
  split
  · next reply waiting =>
    have met := meets _ waiting rfl
    exact ordered_settle h waiting fun _ =>
      ⟨sent, rfl, met.owner, fun _ => current_import met.command⟩
  · next reply power waiting =>
    have met := meets _ waiting rfl
    have waits := h.waits _ waiting
    exact ordered_await h l.pendingKeyOpSince (current_second waits.known) met.alone waits.bare
  · next reply power waiting =>
    have met := meets _ waiting rfl
    exact ordered_settle h waiting fun _ =>
      ⟨sent, rfl, met.owner, fun _ => current_apply met.command⟩
  · exact ordered_autoaddOk h
  · exact ordered_autoaddOk h

theorem ordered_err (h : Ordered l)
    (meets : ∀ op, l.pendingKeyOp = some op → isExport op = false → Meets l sent op)
    (now : Instant) (code : Nat) : Ordered (l.handleFrame sent now (.err code)) := by
  simp only [handleFrame]
  split
  · next op waiting =>
    apply ordered_settle h waiting
    intro answers
    cases kind : isExport op with
    | false => exact ⟨sent, rfl, (meets op waiting kind).owner, nofun⟩
    | true =>
        cases op with
        | exportKey reply => exact (export_told h waiting _ _ answers).elim
        | importKey => cases kind
        | applyRadio => cases kind
  · exact ordered_clearAutoadd h

theorem ordered_handleFrame (h : Ordered l)
    (meets : frame.isBare = true → ∀ op, l.pendingKeyOp = some op → isExport op = false →
      Meets l sent op)
    (now : Instant) : Ordered (l.handleFrame sent now frame) := by
  cases frame with
  | ok => exact ordered_ok h (meets rfl) now
  | err code => exact ordered_err h (meets rfl) now code
  | privateKey key =>
      simp only [handleFrame]
      split
      · next reply waiting =>
        exact ordered_settle h waiting (told_otherwise (by simp) (by simp))
      · exact h
  | autoaddConfig config => exact ordered_autoaddConfig h config now
  | data => exact h

theorem ordered_taken {event : ClientEvent} {rest : List ClientEvent} (h : Ordered l)
    (next : l.events = event :: rest) : Ordered { l with events := rest } := by
  refine h.of_fewer rfl rfl (.inl rfl) ?_ ?_
  · unfold inFlight
    rw [next, List.append_assoc, List.append_assoc]
    exact ((List.sublist_cons_self event rest).filterMap answeredBy).append_right _
  · intro sent frame mem
    rw [next]
    exact List.mem_cons_of_mem _ mem

theorem ordered_frame {rest : List ClientEvent} (h : Ordered l)
    (next : l.events = .frame sent frame :: rest) (now : Instant) :
    Ordered ({ l with events := rest }.handleFrame sent now frame) := by
  have flight : inFlight l = sent :: inFlight { l with events := rest } := by
    simp [inFlight, next, answeredBy]
  apply ordered_handleFrame (ordered_taken h next)
  intro bare op waiting kind
  have waits := h.waits op waiting
  have owner := waits.bare kind sent frame (by rw [next]; exact List.mem_cons_self) bare
  have once := waits.once
  refine ⟨owner, waits.own sent (by rw [flight]; exact List.mem_cons_self) owner, ?_⟩
  intro other mem same
  have more : 0 < (inFlight { l with events := rest }).countP (·.owner = some op.reply) :=
    List.countP_pos_iff.mpr ⟨other, mem, by simpa using same⟩
  rw [flight, List.countP_cons_of_pos (by simpa using owner)] at once
  omega

end Answer

theorem ordered_connected (h : Ordered l) (now : Instant) :
    Ordered (l.handleEvent now .connected) :=
  ordered_probe (ordered_own (ordered_own h .syncNextMessage) .getContacts) now

theorem ordered_disconnected (h : Ordered l) (now : Instant) :
    Ordered (l.handleEvent now .disconnected) := by
  unfold handleEvent
  apply ordered_clearAutoadd
  split
  · next op waiting =>
    exact ordered_settle h waiting (told_otherwise (by simp) (by simp))
  · exact h

theorem ordered_answer {sent : Sent} {rest : List Sent} (h : Ordered l) (written : l.wire = sent :: rest)
    (frame : InboundFrame) (allowed : Allowed (.answer frame) l) :
    Ordered { l with wire := rest, events := l.events ++ [.frame sent frame] } := by
  have flight : inFlight { l with wire := rest, events := l.events ++ [.frame sent frame] } =
      inFlight l := by
    simp [inFlight, written, answeredBy]
  refine ⟨h.attributed, h.told, ?_, ?_⟩
  · rw [flight]
    exact h.owned
  · intro op waiting
    have waits := h.waits op waiting
    refine ⟨waits.known, ?_, ?_, ?_⟩
    · rw [flight]
      exact waits.once
    · rw [flight]
      exact waits.own
    · intro kind other said mem bare
      rcases List.mem_append.mp mem with old | new
      · exact waits.bare kind other said old bare
      · cases List.mem_singleton.mp new
        exact allowed bare op waiting kind sent (by simp [written])

theorem ordered_drop (h : Ordered l) : Ordered l.drop := by
  refine h.of_fewer rfl rfl (.inl rfl) ?_ ?_
  · simp [inFlight, drop, answeredBy]
  · simp [drop]

/-! ## Runs -/

theorem ordered_step {label : Label} (h : Ordered l) (allowed : Allowed label l)
    (moves : Steps label l l') : Ordered l' := by
  unfold Steps step at moves
  cases label with
  | request req now =>
      cases moves
      exact ordered_request h req now allowed
  | own frame =>
      dsimp only at moves
      split at moves
      · cases moves
        exact ordered_own h frame
      · cases moves
  | write =>
      dsimp only at moves
      split at moves
      · next sent rest queued =>
        split at moves
        · cases moves
          refine h.of_fewer rfl rfl (.inl rfl) ?_ ?_
          · simp [inFlight, queued]
          · exact fun _ _ mem => mem
        · cases moves
      · cases moves
  | writeError =>
      dsimp only at moves
      split at moves
      · next sent rest queued =>
        split at moves
        · cases moves
          apply ordered_drop
          refine h.of_fewer rfl rfl (.inl rfl) ?_ ?_
          · simp [inFlight, queued]
          · exact fun _ _ mem => mem
        · cases moves
      · cases moves
  | answer frame =>
      dsimp only at moves
      split at moves
      · next sent rest written =>
        split at moves
        · cases moves
          exact ordered_answer h written frame allowed
        · cases moves
      · cases moves
  | process now =>
      dsimp only at moves
      split at moves
      · next event rest next =>
        cases moves
        cases event with
        | frame sent frame => exact ordered_frame h next now
        | connected => exact ordered_connected (ordered_taken h next) now
        | disconnected => exact ordered_disconnected (ordered_taken h next) now
      · cases moves
  | retryTick now =>
      cases moves
      exact ordered_retryTick h now
  | disconnect =>
      dsimp only at moves
      split at moves
      · cases moves
        exact ordered_drop h
      · cases moves
  | reconnect =>
      dsimp only at moves
      split at moves
      · cases moves
      · cases moves
        refine h.of_fewer rfl rfl (.inl rfl) ?_ ?_
        · simp [inFlight, answeredBy]
        · simp

end Steps

/-- In every run in which the device answers no other command with a bare Ok or error while an import
or a radio change is pending, and none such was waiting when it was accepted, the caller is told what
the device said to the request's own command. -/
theorem replies_attributed {l : KeyLink} (run : Reaches Steps Allowed initial l) : Attributed l := by
  have ordered : Ordered l := by
    apply run.invariant ordered_initial
    intro label l l' h allowed moves
    exact ordered_step h allowed moves
  exact ordered.attributed

def walk (labels : List Label) : KeyLink :=
  labels.foldl (fun l label => (l.step label).getD l) initial

def radio : MeshRadioParams := ⟨910525000, 250000, 11, 5, 22⟩

/-- A radio change on a fresh connection, after the two commands the connection starts with. -/
def applied : List Label :=
  [.reconnect, .process 0, .write, .write, .write, .answer .data, .answer .data,
    .answer (.autoaddConfig 3), .process 1, .process 1, .process 1, .request (.applyRadio radio) 2,
    .write, .answer .ok, .process 3, .write, .answer .ok, .process 4]

theorem replies_attributed_applied :
    (walk applied).delivered = [⟨0, .ok, some ⟨.setRadioTxPower 22, some 0⟩⟩] ∧
      Attributed (walk applied) := by
  have taken : Reaches.Follows (fun l label => (step l label).getD l)
      (fun label l => Allowed label l ∧ (step l label).isSome) applied initial := by
    decide +kernel
  exact ⟨by decide +kernel, replies_attributed (Reaches.follow_taken taken)⟩

/-- The advert name goes out with the import behind it, and its Ok ends the import. -/
def renamed : List Label :=
  [.reconnect, .process 0, .write, .write, .write, .answer .data, .answer .data,
    .answer (.autoaddConfig 3), .process 1, .process 1, .process 1, .own .setAdvertName,
    .request (.importKey 7) 2, .write, .write, .answer .ok, .process 3]

theorem ok_of_another_command :
    ¬ ∀ l, Reaches Steps (fun _ _ => True) initial l → Attributed l := by
  intro attributed
  have taken : Reaches.Follows (fun l label => (step l label).getD l)
      (fun label l => True ∧ (step l label).isSome) renamed initial := by
    decide +kernel
  have told : (walk renamed).delivered = [⟨0, .ok, some ⟨.setAdvertName, none⟩⟩] := by
    decide +kernel
  have made : (walk renamed).requests = [.importKey 7] := by
    decide +kernel
  have own := attributed (walk renamed) (Reaches.follow_taken taken) _
    (by rw [told]; exact List.mem_singleton.mpr rfl)
    ⟨⟨.importKey 7, by rw [made]; rfl, nofun⟩, .inl rfl⟩
  obtain ⟨sent, same, owner, -⟩ := own
  cases same
  cases owner

end SupplyDrop.Proof.ReplyAttribution
