import Mathlib
import SupplyDrop.Mesh.SendTracker

namespace SupplyDrop.Mesh

/-! ## Frames -/

inductive OutboundFrame where
  | sendTxtMsg (id txtType attempt timestamp : Nat) (destination : Prefix) (text : String)
  -- any command that is not a text send
  | command
deriving DecidableEq

inductive InboundFrame where
  -- `id` is the text send this frame answers, which the frame itself does not say
  | sent (id : Nat) (expectedAck : Crc) (timeoutMs : Nat)
  | sendConfirmed (crc : Crc)
  | err (errorCode : Nat)
  | other
deriving DecidableEq

inductive ClientEvent where
  | frame (frame : InboundFrame)
  | connected
  | disconnected
deriving DecidableEq

def txtTypePlain : Nat := 0

/-- The transport, the client task and the radio, with everything in flight between them. -/
structure Link where
  tracker : SendTracker
  -- the command channel outlives a connection, as the event channel does
  channel : List OutboundFrame
  wire : List OutboundFrame
  inbound : List InboundFrame
  events : List ClientEvent
  retrying : List PendingSend
  connected : Bool
  -- for reasoning only: the serial of the next send, and the CRC the radio gave each send
  nextId : Nat
  answered : List (Nat × Crc)

namespace Link

def initial (cfg : RetryConfig) : Link where
  tracker := .new cfg
  channel := []
  wire := []
  inbound := []
  events := []
  retrying := []
  connected := false
  nextId := 0
  answered := []

def enqueueText (l : Link) (destination : Prefix) (text : String) (attempt timestamp : Nat)
    (now : Instant) : Link :=
  { l with
    tracker := if l.tracker.retriesEnabled then
        l.tracker.record l.nextId destination text txtTypePlain attempt now
      else l.tracker
    channel := l.channel ++
      [.sendTxtMsg l.nextId txtTypePlain (attempt - 1) timestamp destination text]
    nextId := l.nextId + 1 }

/-- The transport's reaction to the event at the head of its queue. -/
def handleEvent (l : Link) (now : Instant) : ClientEvent → Link
  | .frame (.sent _ expectedAck timeoutMs) =>
      { l with tracker := (l.tracker.onSent expectedAck timeoutMs now).2 }
  | .frame (.sendConfirmed crc) => { l with tracker := (l.tracker.onConfirmed crc).2 }
  | .frame (.err _) => l
  | .frame .other => l
  | .connected => l
  -- pending key operations are failed, the tracker is left as it is
  | .disconnected => l

inductive Label where
  | reply (destination : Prefix) (text : String) (timestamp : Nat) (now : Instant)
  | command
  | write
  | writeError
  | answerSent (expectedAck : Crc) (timeoutMs : Nat)
  | answerErr (errorCode : Nat)
  | answerOther
  | push (frame : InboundFrame)
  | forward
  | process (now : Instant)
  | retryTick (now : Instant)
  | retry (timestamp : Nat) (now : Instant)
  | disconnect
  | reconnect

/-- The connection is gone with all that was written to it or read from it. -/
def drop (l : Link) : Link :=
  { l with
    wire := []
    inbound := []
    events := l.events ++ [.disconnected]
    connected := false }

def step (l : Link) : Label → Option Link
  | .reply destination text timestamp now => some (l.enqueueText destination text 1 timestamp now)
  | .command => some { l with channel := l.channel ++ [.command] }
  | .write =>
      match l.channel with
      | frame :: rest =>
          if l.connected then some { l with channel := rest, wire := l.wire ++ [frame] } else none
      | [] => none
  -- the frame has left the channel when the write fails
  | .writeError =>
      match l.channel with
      | _ :: rest => if l.connected then some { l with channel := rest }.drop else none
      | [] => none
  | .answerSent expectedAck timeoutMs =>
      match l.wire with
      | .sendTxtMsg id .. :: rest =>
          some { l with
            wire := rest
            inbound := l.inbound ++ [.sent id expectedAck timeoutMs]
            answered := (id, expectedAck) :: l.answered }
      | _ => none
  | .answerErr errorCode =>
      match l.wire with
      | _ :: rest => some { l with wire := rest, inbound := l.inbound ++ [.err errorCode] }
      | [] => none
  | .answerOther =>
      match l.wire with
      | .command :: rest => some { l with wire := rest, inbound := l.inbound ++ [.other] }
      | _ => none
  -- frames the radio sends unasked: acknowledgements from the mesh, adverts and the like
  | .push frame =>
      match frame with
      | .sent .. => none
      | _ => if l.connected then some { l with inbound := l.inbound ++ [frame] } else none
  | .forward =>
      match l.inbound with
      | frame :: rest => some { l with inbound := rest, events := l.events ++ [.frame frame] }
      | [] => none
  | .process now =>
      match l.events with
      | event :: rest => some ({ l with events := rest }.handleEvent now event)
      | [] => none
  | .retryTick now =>
      if l.tracker.retriesEnabled then
        some { l with
          tracker := (l.tracker.collectDue now).2
          retrying := l.retrying ++ (l.tracker.collectDue now).1.toRetry }
      else none
  | .retry timestamp now =>
      match l.retrying with
      | rec :: rest =>
          some ({ l with retrying := rest }.enqueueText rec.destination rec.text (rec.attempt + 1)
            timestamp now)
      | [] => none
  | .disconnect => if l.connected then some l.drop else none
  | .reconnect =>
      if l.connected then none
      else some { l with connected := true, events := l.events ++ [.connected] }

def Steps (label : Label) (l l' : Link) : Prop := l.step label = some l'

def run (labels : List Label) (l : Link) : Option Link := labels.foldlM step l

end Link
end SupplyDrop.Mesh
