import Mathlib
import SupplyDrop.Library.Ghost
import SupplyDrop.Library.Run
import SupplyDrop.Transport.MeshCore

namespace SupplyDrop.Proof.IdleTimeout
open Library Library.Program Store Host Transport Transport.MeshCore

/-! ## What the host answered a node, and when -/

/-- The stage of a session's workflow and its position there. -/
abbrev Place := Option (Workflow × Option MessageId)

def placeOf (session : SessionId) (h : BbsHost) : Place :=
  (h.sessions.get? session).map fun r => (r.workflow, r.currentMessageId)

/-- A workflow given up for want of a reply. -/
structure Cancel where
  at_ : Instant
  -- the database failed the host on the way to the command
  interrupted : Bool
  -- what the transport and the host hold afterwards
  awaitingReply : Bool
  idle : Bool
deriving DecidableEq

inductive Step where
  | opened
  | answered (at_ : Instant) (place : Place) (response : Response)
  | cancelled (cancel : Cancel)
deriving DecidableEq

/-- What happened to the session of a node. A history has the newest first. -/
structure Event where
  sender : Sender
  step : Step
deriving DecidableEq

/-- The prompt that is open, and when the host last answered with one that was not of the stage and
position of the open one. -/
structure Progress where
  last : Option (String × Place)
  moved : Option Instant
deriving DecidableEq

def Progress.after (p : Progress) : Step → Progress
  | .opened | .cancelled _ => { p with last := none }
  | .answered at_ place response =>
      match promptText response with
      | none => { p with last := none }
      | some text =>
          ⟨some (text, place), if p.last.map (·.2) = some place then p.moved else some at_⟩

def progress (sender : Sender) : List Event → Progress
  | [] => ⟨none, none⟩
  | e :: earlier =>
      if e.sender = sender then (progress sender earlier).after e.step else progress sender earlier

/-- A prompt of another stage or position than the open one has another text. -/
def Event.tells : Event → List Event → Bool
  | ⟨sender, .answered _ place response⟩, earlier => (progress sender earlier).last.all fun last =>
      promptText response ≠ some last.1 || last.2 = place
  | _, _ => true

def Event.uninterrupted : Event → Bool
  | ⟨_, .cancelled cancel⟩ => !cancel.interrupted
  | _ => true

/-- A workflow is given up only after the time since the node last got anywhere in it. -/
def Event.waited (cfg : Config) : Event → List Event → Bool
  | ⟨sender, .cancelled cancel⟩, earlier => (progress sender earlier).moved.any fun moved =>
      secs cfg.workflowTimeoutSecs ≤ cancel.at_ - moved
  | _, _ => true

def Event.cleared : Event → Bool
  | ⟨_, .cancelled cancel⟩ => !cancel.awaitingReply && cancel.idle
  | _ => true

def Telling (history : List Event) : Prop := Throughout (fun e earlier => e.tells earlier) history

def Uninterrupted (history : List Event) : Prop := Throughout (fun e _ => e.uninterrupted) history

def Waited (cfg : Config) (history : List Event) : Prop :=
  Throughout (fun e earlier => e.waited cfg earlier) history

def Cleared (history : List Event) : Prop := Throughout (fun e _ => e.cleared) history

instance (history : List Event) : Decidable (Telling history) := instDecidableThroughout history

instance (history : List Event) : Decidable (Uninterrupted history) :=
  instDecidableThroughout history

instance (cfg : Config) (history : List Event) : Decidable (Waited cfg history) :=
  instDecidableThroughout history

instance (history : List Event) : Decidable (Cleared history) := instDecidableThroughout history

/-! ## The transport watched -/

/-- The transport and the host behind it, with a history that neither of them sees. -/
structure Watch where
  station : Station SessionState BbsHost
  history : List Event

abbrev WatchM := Program Watch Exit

variable {α σ : Type}

def real (m : MeshM BbsHost α) : WatchM α :=
  Program.zoom (·.station) (fun w station => { w with station }) m

def Watch.record (w : Watch) (sender : Sender) (step : Step) : Watch :=
  { w with history := ⟨sender, step⟩ :: w.history }

def recordIf (condition : Bool) (sender : Sender) (step : Step) : WatchM Unit :=
  Program.modify fun w => if condition then w.record sender step else w

/-- The idle timeout is about to strike. -/
def cancels (cfg : Config) (sender : Sender) (s : Station SessionState BbsHost) : Bool :=
  let entry := s.sessions sender
  entry.any (·.awaitingReply) && 0 < cfg.workflowTimeoutSecs &&
    entry.any (·.awaitingReplyExpired (secs cfg.workflowTimeoutSecs) s.clock)

/-- The account of the session is in a timeout that is over. -/
def leavesTimeout (session : SessionId) (h : BbsHost) : Bool :=
  ((h.sessions.get? session).bind (·.userId)).any fun id =>
    (h.store.db.users.get? id).any fun row =>
      (mapUserRow id row).toOption.any fun user =>
        user.status = .banned && user.suspendedUntil.any (· ≤ h.store.now)

/-- The next statement succeeds and the one after it does not. -/
def failsSecond (s : Storage) : Bool :=
  match s.faults with
  | none :: some _ :: _ => true
  | _ => false

def interrupted (session : SessionId) (h : BbsHost) : Bool :=
  leavesTimeout session h && failsSecond h.store

def idle (session : SessionId) (h : BbsHost) : Bool :=
  (h.sessions.get? session).all fun r => r.workflow = .none

/-- The idle timeout struck between the two states. -/
def cancelBetween (session : SessionId) (sender : Sender)
    (before after : Station SessionState BbsHost) : Cancel where
  at_ := before.clock
  interrupted := interrupted session before.host
  awaitingReply := (after.sessions sender).any (·.awaitingReply)
  idle := idle session after.host

/-! The handler in parts: until the host has answered, and what is left before the transport goes by
the answer. -/

def answering (host : HostApi σ) (adverts : AdvertKeys σ) (cfg : Config) (meanwhile : Meanwhile σ)
    (sender : Sender) (timestamp : BitVec 32) (text : String) (session : SessionId) (isNew : Bool)
    (fullPubkey : Option PublicKey) (awaitingReply : Bool) : MeshM σ Processed := do
  autoLogin host cfg session isNew fullPubkey awaitingReply
  wait meanwhile.beforeDedup
  deduplicate sender timestamp text awaitingReply
  match parseCommand text cfg.commandPrefix awaitingReply with
  | none => Program.fail .ignored
  | some cmd => do
      rememberReply sender text awaitingReply
      process host adverts cfg sender session fullPubkey text cmd

def tending (host : HostApi σ) (cfg : Config) (meanwhile : Meanwhile σ)
    (fullPubkey : Option PublicKey) (done : Processed) : MeshM σ Unit := do
  wait meanwhile.beforeReply
  letOthers meanwhile.others
  keepCredential host cfg fullPubkey done

theorem dispatchMessage_parts (host : HostApi σ) (adverts : AdvertKeys σ) (cfg : Config)
    (meanwhile : Meanwhile σ) (sender : Sender) (timestamp : BitVec 32) (text : String) :
    dispatchMessage host adverts cfg meanwhile sender timestamp text = (do
      let (session, isNew) ← getOrCreateSession host adverts sender
      let entry ← entryOf sender
      let awaitingReply ← expireWorkflow host cfg sender session
      let done ← answering host adverts cfg meanwhile sender timestamp text session isNew
        (entry.bind (·.fullPubkey)) awaitingReply
      tending host cfg meanwhile (entry.bind (·.fullPubkey)) done
      settle sender done.response
      pure done) := by
  unfold dispatchMessage
  apply bind_congr
  rintro ⟨session, isNew⟩
  apply bind_congr
  intro entry
  apply bind_congr
  intro awaitingReply
  unfold answering
  rw [bind_assoc]
  apply bind_congr
  intro _
  rw [bind_assoc]
  apply bind_congr
  intro _
  rw [bind_assoc]
  apply bind_congr
  intro _
  unfold handle
  cases parseCommand text cfg.commandPrefix awaitingReply with
  | none => rfl
  | some cmd =>
      dsimp only
      rw [bind_assoc]
      apply bind_congr
      intro _
      apply bind_congr
      intro done
      unfold tending
      simp only [bind_assoc]

def watchedDispatch (adverts : AdvertKeys BbsHost) (cfg : Config) (meanwhile : Meanwhile BbsHost)
    (sender : Sender) (timestamp : BitVec 32) (text : String) : WatchM Processed := do
  let (session, isNew) ← real (getOrCreateSession bbsHost adverts sender)
  recordIf isNew sender .opened
  let entry ← real (entryOf sender)
  let before ← Program.gets (·.station)
  let awaitingReply ← real (expireWorkflow bbsHost cfg sender session)
  let after ← Program.gets (·.station)
  recordIf (cancels cfg sender before) sender
    (.cancelled (cancelBetween session sender before after))
  let done ← real (answering bbsHost adverts cfg meanwhile sender timestamp text session isNew
    (entry.bind (·.fullPubkey)) awaitingReply)
  recordIf done.refreshed sender .opened
  let there ← Program.gets (·.station)
  real (tending bbsHost cfg meanwhile (entry.bind (·.fullPubkey)) done)
  real (settle sender done.response)
  recordIf true sender (.answered there.clock (placeOf done.session there.host) done.response)
  pure done

theorem erases_real (m : MeshM BbsHost α) : Erases Watch.station (real m) m :=
  .zoom (fun _ _ => rfl) m

theorem erases_recordIf {condition : Bool} {sender : Sender} {step : Step} {m : WatchM α}
    {p : MeshM BbsHost α} (rest : Erases Watch.station m p) :
    Erases Watch.station (recordIf condition sender step >>= fun _ => m) p := by
  apply Erases.note _ rest
  intro w
  cases condition <;> rfl

/-- Being watched changes nothing. -/
theorem watchedDispatch_erases (adverts : AdvertKeys BbsHost) (cfg : Config)
    (meanwhile : Meanwhile BbsHost) (sender : Sender) (timestamp : BitVec 32) (text : String) :
    Erases Watch.station (watchedDispatch adverts cfg meanwhile sender timestamp text)
      (dispatchMessage bbsHost adverts cfg meanwhile sender timestamp text) := by
  rw [dispatchMessage_parts]
  unfold watchedDispatch
  apply (erases_real _).bind
  rintro ⟨session, isNew⟩
  apply erases_recordIf
  apply (erases_real _).bind
  intro entry
  apply Erases.look
  intro before
  apply (erases_real _).bind
  intro awaitingReply
  apply Erases.look
  intro after
  apply erases_recordIf
  apply (erases_real _).bind
  intro done
  apply erases_recordIf
  apply Erases.look
  intro there
  apply (erases_real _).bind
  intro _
  apply (erases_real _).bind
  intro _
  exact erases_recordIf (.ret done)

end SupplyDrop.Proof.IdleTimeout
