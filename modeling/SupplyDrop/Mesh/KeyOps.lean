import Mathlib
import SupplyDrop.Mesh.SendTracker

namespace SupplyDrop.Mesh.KeyOps

/-! ## Commands and what the device says to them -/

structure MeshRadioParams where
  frequencyHz : Nat
  bandwidthHz : Nat
  spreadingFactor : Nat
  codingRate : Nat
  txPowerDbm : Int
deriving DecidableEq

inductive OutboundFrame where
  | exportPrivateKey
  | importPrivateKey (key : BitVec 256)
  | setRadioParams (frequencyHz bandwidthHz spreadingFactor codingRate : Nat)
  | setRadioTxPower (powerDbm : Int)
  | getAutoaddConfig
  | setAutoaddConfig (config : BitVec 8)
  | setAdvertName
  | setAdvertLatlon
  | setOtherParams
  | setPathHashMode
  | sendSelfAdvert
  | addUpdateContact
  | removeContact
  | resetPath
  | syncNextMessage
  | getContacts
  | sendTxtMsg
deriving DecidableEq

inductive InboundFrame where
  | ok
  | err (errorCode : Nat)
  | privateKey (key : BitVec 512)
  | autoaddConfig (config : BitVec 8)
  -- an answer of the command's own kind
  | data
deriving DecidableEq

/-- What the device may say to a command. An error says nothing but its code. -/
def OutboundFrame.admits : OutboundFrame → InboundFrame → Bool
  | _, .err _ => true
  | .exportPrivateKey, frame => match frame with
      | .privateKey _ => true
      | _ => false
  | .getAutoaddConfig, frame => match frame with
      | .autoaddConfig _ => true
      | _ => false
  | .syncNextMessage, frame => frame = .data
  | .getContacts, frame => frame = .data
  | .sendTxtMsg, frame => frame = .data
  | _, frame => frame = .ok

/-- What the transport sends of its own accord, the auto-add commands apart. -/
def OutboundFrame.isOwn : OutboundFrame → Bool
  | .exportPrivateKey => false
  | .importPrivateKey _ => false
  | .getAutoaddConfig => false
  | .setAutoaddConfig _ => false
  | _ => true

/-- A frame that does not tell what it answers. -/
def InboundFrame.isBare : InboundFrame → Bool
  | .ok => true
  | .err _ => true
  | _ => false

abbrev RequestId := Nat

/-- A command on the link. Whose it is, the frames do not say. -/
structure Sent where
  frame : OutboundFrame
  owner : Option RequestId
deriving DecidableEq

inductive ClientEvent where
  | frame (answered : Sent) (frame : InboundFrame)
  | connected
  | disconnected
deriving DecidableEq

/-! ## The event loop -/

inductive PendingKeyOp where
  | exportKey (reply : RequestId)
  | importKey (reply : RequestId)
  | applyRadio (reply : RequestId) (waitingForParams : Bool) (txPowerDbm : Int)
deriving DecidableEq

def PendingKeyOp.reply : PendingKeyOp → RequestId
  | exportKey reply => reply
  | importKey reply => reply
  | applyRadio reply _ _ => reply

inductive PendingAutoadd where
  | get
  | set (config : BitVec 8)
deriving DecidableEq

inductive MeshKeyRequest where
  | exportKey
  | importKey (key : BitVec 256)
  | applyRadio (params : MeshRadioParams)
deriving DecidableEq

inductive Verdict where
  | key (key : BitVec 512)
  | ok
  | deviceError (errorCode : Nat)
  | busy
  | disconnected
  | noReply
deriving DecidableEq

/-- What a caller was told, and the command whose answer that was. -/
structure Delivery where
  request : RequestId
  verdict : Verdict
  answered : Option Sent
deriving DecidableEq

structure KeyLink where
  pendingKeyOp : Option PendingKeyOp
  pendingKeyOpSince : Option Instant
  pendingAutoadd : Option PendingAutoadd
  pendingAutoaddSince : Option Instant
  -- the command channel outlives a connection
  channel : List Sent
  wire : List Sent
  events : List ClientEvent
  connected : Bool
  -- for reasoning only: the requests made so far, and what their callers were told
  requests : List MeshKeyRequest
  delivered : List Delivery

namespace KeyLink

def initial : KeyLink where
  pendingKeyOp := none
  pendingKeyOpSince := none
  pendingAutoadd := none
  pendingAutoaddSince := none
  channel := []
  wire := []
  events := []
  connected := false
  requests := []
  delivered := []

def send (l : KeyLink) (frame : OutboundFrame) (owner : Option RequestId) : KeyLink :=
  { l with channel := l.channel ++ [⟨frame, owner⟩] }

def deliver (l : KeyLink) (request : RequestId) (verdict : Verdict) (answered : Option Sent) :
    KeyLink :=
  { l with delivered := l.delivered ++ [⟨request, verdict, answered⟩] }

/-- `pending_key_op.take()` with its caller told. -/
def settle (l : KeyLink) (op : PendingKeyOp) (verdict : Verdict) (answered : Option Sent) :
    KeyLink :=
  { l with pendingKeyOp := none, pendingKeyOpSince := none }.deliver op.reply verdict answered

def busy (l : KeyLink) : Bool := l.pendingKeyOp.isSome || l.pendingAutoadd.isSome

def begin (l : KeyLink) (op : PendingKeyOp) (frame : OutboundFrame) (now : Instant) : KeyLink :=
  { l.send frame (some op.reply) with pendingKeyOp := some op, pendingKeyOpSince := some now }

def request (l : KeyLink) (req : MeshKeyRequest) (now : Instant) : KeyLink :=
  let id := l.requests.length
  let l := { l with requests := l.requests ++ [req] }
  if l.busy then l.deliver id .busy none
  else match req with
    | .exportKey => l.begin (.exportKey id) .exportPrivateKey now
    | .importKey key => l.begin (.importKey id) (.importPrivateKey key) now
    | .applyRadio params => l.begin (.applyRadio id true params.txPowerDbm)
        (.setRadioParams params.frequencyHz params.bandwidthHz params.spreadingFactor
          params.codingRate) now

def autoAddOverwriteOldest : BitVec 8 := 1
def autoAddChat : BitVec 8 := 2

def autoaddConfigNeeded (current : BitVec 8) : Option (BitVec 8) :=
  let wanted := current ||| autoAddOverwriteOldest ||| autoAddChat
  if wanted ≠ current then some wanted else none

def clearAutoadd (l : KeyLink) : KeyLink :=
  { l with pendingAutoadd := none, pendingAutoaddSince := none }

def tryStartAutoaddProbe (l : KeyLink) (now : Instant) : KeyLink :=
  if l.busy then l
  else { l.send .getAutoaddConfig none with
    pendingAutoadd := some .get, pendingAutoaddSince := some now }

def autoaddConfig (l : KeyLink) (config : BitVec 8) (now : Instant) : KeyLink :=
  if l.pendingAutoadd ≠ some .get then l
  else match autoaddConfigNeeded config with
    | some wanted =>
        if l.pendingKeyOp.isSome then l.clearAutoadd
        else { l.clearAutoadd.send (.setAutoaddConfig wanted) none with
          pendingAutoadd := some (.set wanted), pendingAutoaddSince := some now }
    | none => l.clearAutoadd

/-- An Ok that no key operation claims. -/
def autoaddOk (l : KeyLink) : KeyLink :=
  match l.pendingAutoadd with
  | some (.set _) => l.clearAutoadd
  | _ => l

def handleFrame (l : KeyLink) (answered : Sent) (now : Instant) : InboundFrame → KeyLink
  | .privateKey key =>
      match l.pendingKeyOp with
      | some (.exportKey reply) => l.settle (.exportKey reply) (.key key) (some answered)
      | _ => l
  | .ok =>
      match l.pendingKeyOp with
      | some (.importKey reply) => l.settle (.importKey reply) .ok (some answered)
      -- the deadline covers both steps
      | some (.applyRadio reply true txPowerDbm) =>
          { l.send (.setRadioTxPower txPowerDbm) (some reply) with
            pendingKeyOp := some (.applyRadio reply false txPowerDbm) }
      | some (.applyRadio reply false txPowerDbm) =>
          l.settle (.applyRadio reply false txPowerDbm) .ok (some answered)
      | some (.exportKey _) => l.autoaddOk
      | none => l.autoaddOk
  | .err errorCode =>
      match l.pendingKeyOp with
      | some op => l.settle op (.deviceError errorCode) (some answered)
      | none => l.clearAutoadd
  | .autoaddConfig config => l.autoaddConfig config now
  | .data => l

def handleEvent (l : KeyLink) (now : Instant) : ClientEvent → KeyLink
  | .frame answered frame => l.handleFrame answered now frame
  | .connected =>
      ((l.send .syncNextMessage none).send .getContacts none).tryStartAutoaddProbe now
  | .disconnected =>
      (match l.pendingKeyOp with
        | some op => l.settle op .disconnected none
        | none => l).clearAutoadd

def autoaddReplyTimeout : Nat := 5000000000
def pendingKeyOpTimeout : Nat := 8000000000

def overdue (since : Option Instant) (timeout now : Nat) : Bool :=
  since.any fun since => timeout ≤ now - since

def expireAutoadd (l : KeyLink) (now : Instant) : KeyLink :=
  if overdue l.pendingAutoaddSince autoaddReplyTimeout now then l.clearAutoadd else l

def expireKeyOp (l : KeyLink) (now : Instant) : KeyLink :=
  if overdue l.pendingKeyOpSince pendingKeyOpTimeout now then
    match l.pendingKeyOp with
    | some op => l.settle op .noReply none
    | none => l
  else l

def retryTick (l : KeyLink) (now : Instant) : KeyLink := (l.expireAutoadd now).expireKeyOp now

/-- The connection is gone with all that was written to it. -/
def drop (l : KeyLink) : KeyLink :=
  { l with wire := [], events := l.events ++ [.disconnected], connected := false }

inductive Label where
  | request (req : MeshKeyRequest) (now : Instant)
  -- a command of the transport's own: an advert, a parameter, a contact, a message
  | own (frame : OutboundFrame)
  | write
  | writeError
  | answer (frame : InboundFrame)
  | process (now : Instant)
  | retryTick (now : Instant)
  | disconnect
  | reconnect

def step (l : KeyLink) : Label → Option KeyLink
  | .request req now => some (l.request req now)
  | .own frame => if frame.isOwn then some (l.send frame none) else none
  | .write =>
      match l.channel with
      | sent :: rest =>
          if l.connected then some { l with channel := rest, wire := l.wire ++ [sent] } else none
      | [] => none
  -- the frame has left the channel when the write fails
  | .writeError =>
      match l.channel with
      | _ :: rest => if l.connected then some { l with channel := rest }.drop else none
      | [] => none
  -- the device answers each command in order
  | .answer frame =>
      match l.wire with
      | sent :: rest =>
          if sent.frame.admits frame then
            some { l with wire := rest, events := l.events ++ [.frame sent frame] }
          else none
      | [] => none
  | .process now =>
      match l.events with
      | event :: rest => some ({ l with events := rest }.handleEvent now event)
      | [] => none
  | .retryTick now => some (l.retryTick now)
  | .disconnect => if l.connected then some l.drop else none
  | .reconnect =>
      if l.connected then none
      else some { l with connected := true, events := l.events ++ [.connected] }

def Steps (label : Label) (l l' : KeyLink) : Prop := l.step label = some l'

/-- What the loop's `select!` gives it, whatever the device sends. -/
inductive Taken where
  | request (req : MeshKeyRequest) (now : Instant)
  | event (event : ClientEvent) (now : Instant)
  | retryTick (now : Instant)

def take (l : KeyLink) : Taken → KeyLink
  | .request req now => l.request req now
  | .event event now => l.handleEvent now event
  | .retryTick now => l.retryTick now

end KeyLink
end SupplyDrop.Mesh.KeyOps
