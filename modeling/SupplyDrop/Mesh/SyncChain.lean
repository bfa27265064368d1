import Mathlib

namespace SupplyDrop.Mesh.SyncChain

/-! ## Frames -/

abbrev Byte := BitVec 8

inductive FrameDecodeError where
  | bodyTooShort (typeByte : Byte) (needed got : Nat)
deriving DecidableEq

/-- The text is the bytes up to the first NUL. -/
structure ContactMsg where
  senderKeyPrefix : List Byte
  txtType : Byte
  timestamp : Nat
  text : List Byte
deriving DecidableEq

inductive InboundFrame where
  | ok
  | err (errorCode : Byte)
  | privateKey (key : List Byte)
  | autoaddConfig (config : Byte)
  | contactMsgRecv (msg : ContactMsg)
  | contactMsgRecvV3 (msg : ContactMsg)
  | channelMsgRecv
  | channelMsgRecvV3
  | noMoreMessages
  | msgWaiting
  -- a kind the codec knows that has no part in the sync chain
  | other (typeByte : Byte)
  | unknown (typeByte : Byte) (payload : List Byte)
deriving DecidableEq

def rU32 (bytes : List Byte) (off : Nat) : Nat :=
  ((bytes.drop off).take 4).foldr (fun byte n => byte.toNat + 256 * n) 0

def parseContactMsg (body : List Byte) : ContactMsg where
  senderKeyPrefix := body.take 6
  txtType := body.getD 7 0
  timestamp := rU32 body 8
  text := (body.drop 12).takeWhile (· ≠ 0)

/-- How long a body the other kinds need. -/
def bodyNeeds : List (Byte × Nat) :=
  [(2, 4), (3, 147), (4, 4), (5, 57), (6, 9), (9, 4), (11, 73), (12, 10), (13, 81), (15, 0), (18, 49),
    (21, 0), (22, 0), (23, 0), (24, 1), (0x80, 32), (0x81, 32), (0x82, 8), (0x84, 3), (0x85, 13),
    (0x86, 7), (0x87, 7), (0x88, 2), (0x89, 0), (0x8A, 147), (0x8B, 7), (0x8C, 5), (0x8D, 0), (0x8E, 0),
    (0x8F, 32), (0x90, 0)]

def decodeOther (typeByte : Byte) (body : List Byte) : Except FrameDecodeError InboundFrame :=
  if typeByte = 28 then
    if body.length = 0 ∨ 47 ≤ body.length then .ok (.other typeByte)
    else .error (.bodyTooShort typeByte 47 body.length)
  else match bodyNeeds.lookup typeByte with
    | some needed =>
        if body.length < needed then .error (.bodyTooShort typeByte needed body.length)
        else .ok (.other typeByte)
    | none => .ok (.unknown typeByte (typeByte :: body))

def decodeInbound : List Byte → Except FrameDecodeError InboundFrame
  | [] => .error (.bodyTooShort 0 1 0)
  | typeByte :: body =>
      let need (needed : Nat) (frame : InboundFrame) : Except FrameDecodeError InboundFrame :=
        if body.length < needed then .error (.bodyTooShort typeByte needed body.length) else .ok frame
      match typeByte with
      | 0 => .ok .ok
      | 1 => need 1 (.err (body.getD 0 0))
      | 7 => need 12 (.contactMsgRecv (parseContactMsg body))
      | 8 => need 7 .channelMsgRecv
      | 10 => .ok .noMoreMessages
      | 14 => need 32 (.privateKey body)
      | 16 => need 15 (.contactMsgRecvV3 (parseContactMsg (body.drop 3)))
      | 17 => need 10 .channelMsgRecvV3
      | 25 => need 1 (.autoaddConfig (body.getD 0 0))
      | 0x83 => .ok .msgWaiting
      | _ => decodeOther typeByte body

/-- What the firmware puts in its offline queue. The codec has no name for the last. -/
def queuedTypes : List Byte := [7, 8, 16, 17, 27]

inductive OutboundFrame where
  | syncNextMessage
  | getContacts
  | command
deriving DecidableEq

inductive ClientEvent where
  | frame (frame : InboundFrame)
  | connected
  | disconnected
deriving DecidableEq

/-! ## The radio, the client task and the event loop -/

structure Queued where
  serial : Nat
  payload : List Byte
deriving DecidableEq

structure InboundCommand where
  senderPrefix : List Byte
  timestamp : Nat
  text : List Byte
deriving DecidableEq

structure SyncLink where
  -- the radio's offline queue, oldest first
  queue : List Queued
  arrived : Nat
  -- the command channel outlives a connection, as the event channel does
  channel : List OutboundFrame
  wire : List OutboundFrame
  inbound : List (List Byte)
  events : List ClientEvent
  connected : Bool
  draining : Bool
  commands : List InboundCommand

namespace SyncLink

def initial : SyncLink where
  queue := []
  arrived := 0
  channel := []
  wire := []
  inbound := []
  events := []
  connected := false
  draining := false
  commands := []

def send (l : SyncLink) (frame : OutboundFrame) : SyncLink := { l with channel := l.channel ++ [frame] }

def txtTypePlain : Byte := 0

def receive (l : SyncLink) (msg : ContactMsg) : SyncLink :=
  if msg.txtType ≠ txtTypePlain then l.send .syncNextMessage
  else
    let command : InboundCommand := ⟨msg.senderKeyPrefix, msg.timestamp, msg.text⟩
    { l with commands := l.commands ++ [command] }.send .syncNextMessage

def drained (l : SyncLink) : SyncLink := if l.draining then { l with draining := false } else l

def handleFrame (l : SyncLink) : InboundFrame → SyncLink
  | .noMoreMessages => l.drained
  | .contactMsgRecv msg => l.receive msg
  | .contactMsgRecvV3 msg => l.receive msg
  | .channelMsgRecv => l.send .syncNextMessage
  | .channelMsgRecvV3 => l.send .syncNextMessage
  | .unknown typeByte _ => if typeByte = 27 then l.send .syncNextMessage else l
  | .msgWaiting => l.send .syncNextMessage
  -- a radio without the command would pin the flag
  | .err _ => l.drained
  | .ok => l
  | .privateKey _ => l
  | .autoaddConfig _ => l
  | .other _ => l

/-- The kinds that a key operation or the auto-add probe may take for its own. -/
def interceptable : InboundFrame → Bool
  | .privateKey _ => true
  | .ok => true
  | .err _ => true
  | .autoaddConfig _ => true
  | _ => false

/-- Whether a pending operation claims the frame is left open, as is what it sends then. -/
def handleEvent (l : SyncLink) (claimed : Bool) : ClientEvent → SyncLink
  | .frame frame => if claimed && interceptable frame then l else l.handleFrame frame
  | .connected => ({ l with draining := true }.send .syncNextMessage).send .getContacts
  | .disconnected => l

/-- The connection is gone with all that was written to it or read from it. -/
def drop (l : SyncLink) : SyncLink :=
  { l with
    wire := []
    inbound := []
    events := l.events ++ [.disconnected]
    connected := false }

/-- The answer of the radio to a command, where it has one. -/
def pop (l : SyncLink) : SyncLink :=
  match l.queue with
  | oldest :: rest => { l with queue := rest, inbound := l.inbound ++ [oldest.payload] }
  | [] => { l with inbound := l.inbound ++ [[10]] }

inductive Label where
  -- a message reaches the radio, which puts it in its queue
  | arrive (payload : List Byte)
  | push (payload : List Byte)
  -- an advert, a parameter, a reply, a contact
  | command (frame : OutboundFrame)
  | write
  -- the frame has left the channel when the write fails
  | writeError
  | answer
  | forward
  | process (claimed : Bool)
  | disconnect
  | reconnect

def step (l : SyncLink) : Label → Option SyncLink
  | .arrive payload =>
      if payload.head?.any (· ∈ queuedTypes) then
        some { l with queue := l.queue ++ [⟨l.arrived, payload⟩], arrived := l.arrived + 1 }
      else none
  -- whatever else the radio has to say, the answers to other commands too
  | .push payload =>
      if l.connected then some { l with inbound := l.inbound ++ [payload] } else none
  | .command frame => some (l.send frame)
  | .write =>
      match l.channel with
      | frame :: rest =>
          if l.connected then some { l with channel := rest, wire := l.wire ++ [frame] } else none
      | [] => none
  | .writeError =>
      match l.channel with
      | _ :: rest => if l.connected then some { l with channel := rest }.drop else none
      | [] => none
  | .answer =>
      match l.wire with
      | .syncNextMessage :: rest => some { l with wire := rest }.pop
      | _ :: rest => some { l with wire := rest }
      | [] => none
  -- a frame that does not decode ends the session
  | .forward =>
      match l.inbound with
      | payload :: rest =>
          match decodeInbound payload with
          | .ok frame => some { l with inbound := rest, events := l.events ++ [.frame frame] }
          | .error _ => some l.drop
      | [] => none
  | .process claimed =>
      match l.events with
      | event :: rest => some ({ l with events := rest }.handleEvent claimed event)
      | [] => none
  | .disconnect => if l.connected then some l.drop else none
  | .reconnect =>
      if l.connected then none
      else some { l with connected := true, events := l.events ++ [.connected] }

def Steps (label : Label) (l l' : SyncLink) : Prop := l.step label = some l'

/-- Every message the radio queues decodes. -/
def Decodes : Label → SyncLink → Prop
  | .arrive payload, _ => (decodeInbound payload).isOk
  | _, _ => True

end SyncLink
end SupplyDrop.Mesh.SyncChain
