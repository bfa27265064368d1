import Mathlib
import SupplyDrop.Mesh.AdminFrames

namespace SupplyDrop.Mesh.Admin
open Transport.Meshtastic (NodeNum)

/-! ## The event loop -/

/-- A key the connected radio gave out: on which connection, and how many writes were queued then. -/
structure Issue where
  passkey : Passkey
  epoch : Nat
  covers : Nat
deriving DecidableEq

structure Written where
  frame : ToRadio
  epoch : Nat
deriving DecidableEq

structure AdminLink where
  running : Bool
  pendingAdmin : Option PendingAdmin
  lastSessionPasskey : Passkey
  deferredWrites : List Deferred
  sessionRequested : Bool
  sessionRequestedAt : Option Instant
  autoApplied : Bool
  -- what the session state knows of the radio
  myNodeNum : Option NodeNum
  deviceLora : Option LoRaConfig
  deviceOwner : Option User
  deviceSecurity : Option SecurityConfig
  deviceConfig : Option DeviceConfig
  -- the admin channel, the command channel and the event channel, which outlive a connection
  adminChannel : List RequestId
  channel : List ToRadio
  events : List ClientEvent
  peer : Option NodeNum
  -- for reasoning only
  requests : List MeshtasticAdminRequest
  told : List Delivery
  reads : List (RequestId × PacketId)
  queuedWrites : Nat
  keyCovers : Nat
  reverts : List (NodeNum × Nat)
  epoch : Nat
  issued : List Issue
  written : List Written

namespace AdminLink

def initial : AdminLink where
  running := true
  pendingAdmin := none
  lastSessionPasskey := []
  deferredWrites := []
  sessionRequested := false
  sessionRequestedAt := none
  autoApplied := false
  myNodeNum := none
  deviceLora := none
  deviceOwner := none
  deviceSecurity := none
  deviceConfig := none
  adminChannel := []
  channel := []
  events := []
  peer := none
  requests := []
  told := []
  reads := []
  queuedWrites := 0
  keyCovers := 0
  reverts := []
  epoch := 0
  issued := []
  written := []

def tells (id : RequestId) (l : AdminLink) : Nat := l.told.countP fun d => d.request = id

/-- Whether the caller still holds the receiver of its reply. -/
def isOpen (l : AdminLink) (id : RequestId) : Bool :=
  l.told.all fun d => ¬(d.request = id ∧ d.outcome = .timedOut)

/-- `reply.send`, which a caller that has given up does not hear. -/
def tell (l : AdminLink) (id : RequestId) (outcome : Outcome) (answered : Option Data) : AdminLink :=
  if l.isOpen id then { l with told := l.told ++ [⟨id, outcome, answered⟩] } else l

def tellAny (l : AdminLink) (reply : Option RequestId) (outcome : Outcome) : AdminLink :=
  match reply with
  | some id => l.tell id outcome none
  | none => l

def send (l : AdminLink) (frame : ToRadio) : AdminLink := { l with channel := l.channel ++ [frame] }

/-- The room of the command channel, which a `send` waits for and a `try_send` does not. -/
def channelCap : Nat := 32

def hasRoom (l : AdminLink) : Bool := l.channel.length < channelCap

def queueWrite (l : AdminLink) (write : DeferredWrite) : AdminLink :=
  { l with
    deferredWrites := l.deferredWrites ++ [⟨l.queuedWrites, write⟩]
    queuedWrites := l.queuedWrites + 1 }

def requestSessionKey (l : AdminLink) (node : NodeNum) (clock : BitVec 32) (now : Instant) :
    AdminLink :=
  if l.sessionRequested || l.deferredWrites.isEmpty then l
  else if l.hasRoom then
    { l.send (.adminGetSessionKey node (randomPacketId clock)) with
      sessionRequested := true, sessionRequestedAt := some now }
  else l

def sessionKeyTimeout : Nat := 30000000000

def sessionKeyRequestAbandoned (l : AdminLink) (now : Instant) : Bool :=
  l.sessionRequestedAt.any fun since => sessionKeyTimeout < now - since

/-- A read whose caller has given up is given up too. -/
def reapPending (l : AdminLink) : AdminLink :=
  match l.pendingAdmin with
  | some op => if l.isOpen op.reply then l else { l with pendingAdmin := none }
  | none => l

def reapSessionKey (l : AdminLink) (now : Instant) : AdminLink :=
  if l.sessionRequested && l.sessionKeyRequestAbandoned now then
    { l with sessionRequested := false, sessionRequestedAt := none }
  else l

def reap (l : AdminLink) (now : Instant) : AdminLink := l.reapPending.reapSessionKey now

/-- What one turn of the loop reads from outside: the clock, once for each packet it makes; what the
advert bus says; the settings that are applied on connecting; the protections decided. -/
structure Turn where
  clock : Nat → BitVec 32
  now : Instant
  favourited : NodeNum → Bool
  position : Option (BitVec 64 × BitVec 64)
  config : AutoApplyConfig
  favourites : List (NodeNum × Nat)

def flushWrite (t : Turn) (node : NodeNum) (passkey : Passkey) (l : AdminLink) (d : Deferred) :
    AdminLink :=
  let frame : ToRadio := .adminWrite node (randomPacketId (t.clock d.serial)) d passkey
  match d.write with
  -- the client task outlives the loop, so it takes what it is sent
  | .lora _ reply => (l.send frame).tellAny reply .ok
  | .owner _ reply => (l.send frame).tellAny reply .ok
  | .reboot _ reply => (l.send frame).tellAny reply .ok
  | .device _ => if l.hasRoom then l.send frame else l
  | .time => if l.hasRoom then l.send frame else l
  | .setFixedPosition _ _ =>
      if l.hasRoom then l.send frame else { l with deferredWrites := l.deferredWrites ++ [d] }
  | .removeFixedPosition =>
      if l.hasRoom then l.send frame else { l with deferredWrites := l.deferredWrites ++ [d] }
  | .setFavoriteNode nodeNum expectedGeneration =>
      if l.hasRoom then l.send frame
      else { l with reverts := l.reverts ++ [(nodeNum, expectedGeneration)] }
  | .removeFavoriteNode nodeNum =>
      if t.favourited nodeNum then l else if l.hasRoom then l.send frame else l

def flushDeferredWrites (t : Turn) (node : NodeNum) (passkey : Passkey) (l : AdminLink) : AdminLink :=
  l.deferredWrites.foldl (flushWrite t node passkey) { l with deferredWrites := [] }

def discardWrite (l : AdminLink) (d : Deferred) : AdminLink :=
  match d.write with
  | .setFavoriteNode nodeNum expectedGeneration =>
      { l with reverts := l.reverts ++ [(nodeNum, expectedGeneration)] }
  | write => l.tellAny write.reply (.error "device disconnected")

def discardDeferredWritesOnDisconnect (l : AdminLink) : AdminLink :=
  l.deferredWrites.foldl discardWrite { l with deferredWrites := [] }

def failPending (l : AdminLink) : AdminLink :=
  match l.pendingAdmin with
  | some op => { l with pendingAdmin := none }.tell op.reply (.error "device disconnected") none
  | none => l

/-- The loop ends, and every sender it still holds is dropped. -/
def stop (l : AdminLink) : AdminLink :=
  let waiting := l.adminChannel ++ (l.pendingAdmin.map (·.reply)).toList ++
    l.deferredWrites.filterMap (·.write.reply)
  let l := { l with running := false, adminChannel := [], pendingAdmin := none, deferredWrites := [] }
  waiting.foldl (fun l id => l.tell id .cancelled none) l

def enqueueDevice (l : AdminLink) : AdminLink :=
  match l.deviceConfig with
  | some current =>
      if current.nodeInfoBroadcastSecs ≠ nodeInfoBroadcastSecs then
        l.queueWrite (.device { current with nodeInfoBroadcastSecs := nodeInfoBroadcastSecs })
      else l
  | none => l

def enqueueRadio (config : AutoApplyConfig) (l : AdminLink) : AdminLink :=
  match config.radio, l.deviceLora with
  | some radio, some current =>
      if (radio.overlay current).partialEq current then l
      else l.queueWrite (.lora (radio.overlay current) none)
  | _, _ => l

def enqueueOwner (config : AutoApplyConfig) (l : AdminLink) : AdminLink :=
  if config.shortName.isSome ∨ config.longName.isSome then
    let user := ownerUser config.longName config.shortName
    if l.deviceOwner.any fun u => u.longName = user.longName ∧ u.shortName = user.shortName then l
    else l.queueWrite (.owner user none)
  else l

/-- What the configuration has otherwise than the radio reported it. -/
def enqueueAutoApply (config : AutoApplyConfig) (l : AdminLink) : AdminLink :=
  (l.enqueueDevice.enqueueRadio config).enqueueOwner config

/-- The node an auto-apply is due for. -/
def applyDue (l : AdminLink) (frame : FromRadio) : Option NodeNum :=
  if l.autoApplied = false ∧ frame = .configCompleteId then l.myNodeNum else none

def autoApply (t : Turn) (frame : FromRadio) (l : AdminLink) : AdminLink :=
  match l.applyDue frame with
  | some node =>
      let l := l.queueWrite .time
      let l := match t.position with
        | some (lat, lon) => l.queueWrite (.setFixedPosition lat lon)
        | none => l.queueWrite .removeFixedPosition
      { (l.enqueueAutoApply t.config).requestSessionKey node (t.clock 0) t.now with autoApplied := true }
  | none => l

def harvest (frame : FromRadio) (l : AdminLink) : AdminLink :=
  match harvestSessionPasskey frame with
  | some passkey => { l with lastSessionPasskey := passkey, keyCovers := l.queuedWrites }
  | none => l

def flush (t : Turn) (l : AdminLink) : AdminLink :=
  if l.deferredWrites.isEmpty || l.lastSessionPasskey.isEmpty then l
  else match l.myNodeNum with
    | some node => { l.flushDeferredWrites t node l.lastSessionPasskey with
        sessionRequested := false, sessionRequestedAt := none }
    | none => l

/-- The pending read a packet answers. -/
def answers (data : Data) (l : AdminLink) : Option PendingAdmin :=
  l.pendingAdmin.filter fun op => data.replyId = op.requestId ∨ data.requestId = op.requestId

def captureKey (payload : Except String AdminMessage) (l : AdminLink) : AdminLink :=
  match payload with
  | .ok msg =>
      if msg.sessionPasskey.isEmpty then l else { l with lastSessionPasskey := msg.sessionPasskey }
  | .error _ => l

def tryHandleAdminResponse (frame : FromRadio) (l : AdminLink) : Bool × AdminLink :=
  match frame.adminData with
  | some data =>
      match l.answers data with
      | some op =>
          let l := { l.captureKey data.payload with pendingAdmin := none }
          (true, l.tell op.reply (op.get.outcome data.payload) (some data))
      | none => (false, l)
  | none => (false, l)

def protectNode (t : Turn) (l : AdminLink) (favourite : NodeNum × Nat) : AdminLink :=
  match l.myNodeNum with
  | some node => (l.queueWrite (.setFavoriteNode favourite.1 favourite.2)).requestSessionKey node
      (t.clock l.queuedWrites) t.now
  | none => l

/-- What the dispatch of a packet comes to here: the protections it decides. -/
def protectNodes (t : Turn) (l : AdminLink) : AdminLink := t.favourites.foldl (protectNode t) l

def handleFromRadio (t : Turn) (frame : FromRadio) (l : AdminLink) : AdminLink :=
  match frame with
  | .myInfo myNodeNum => { l with myNodeNum := some myNodeNum }
  | .nodeInfo num user =>
      let l := if some num = l.myNodeNum then { l with deviceOwner := user.or l.deviceOwner } else l
      l.protectNodes t
  | .config (some (.lora config)) => { l with deviceLora := some config }
  | .config (some (.security config)) => { l with deviceSecurity := some config }
  | .config (some (.device config)) => { l with deviceConfig := some config }
  | .config none => l
  | .packet _ => if frame.adminData.isSome then l else l.protectNodes t
  | .configCompleteId => l
  | .other => l

def processFrame (t : Turn) (frame : FromRadio) (l : AdminLink) : AdminLink :=
  let l := (((l.autoApply t frame).harvest frame).flush t)
  match l.tryHandleAdminResponse frame with
  | (true, l) => l
  | (false, l) => l.handleFromRadio t frame

def handleEvent (t : Turn) (l : AdminLink) : ClientEvent → AdminLink
  | .connected => { l with autoApplied := false }
  | .disconnected willRetry =>
      let l := { l.failPending.discardDeferredWritesOnDisconnect with
        sessionRequested := false
        sessionRequestedAt := none
        lastSessionPasskey := []
        autoApplied := false }
      if willRetry then l else l.stop
  | .fromRadio frame => l.processFrame t frame

def deviceSnapshot (l : AdminLink) : DeviceSnapshot :=
  ⟨l.deviceLora, l.deviceOwner.map ownerInfo, l.deviceSecurity.map securityInfo⟩

def startGet (t : Turn) (node : NodeNum) (id : RequestId) (get : Get) (l : AdminLink) : AdminLink :=
  let requestId := randomPacketId (t.clock 0)
  { l.send (.adminGet node requestId get) with
    pendingAdmin := some ⟨get, requestId, id⟩
    reads := l.reads ++ [(id, requestId)] }

def deferWrite (t : Turn) (node : NodeNum) (write : DeferredWrite) (l : AdminLink) : AdminLink :=
  (l.queueWrite write).requestSessionKey node (t.clock 0) t.now

def handleRequest (t : Turn) (node : NodeNum) (id : RequestId) (l : AdminLink) :
    MeshtasticAdminRequest → AdminLink
  | .get get =>
      if l.pendingAdmin.isSome then
        l.tell id (.error "another admin operation is already in progress") none
      else l.startGet t node id get
  | .getSnapshot => l.tell id (.snapshot l.deviceSnapshot) none
  | .setLoRaConfig config => l.deferWrite t node (.lora config (some id))
  | .setOwner longName shortName => l.deferWrite t node (.owner (ownerUser longName shortName) (some id))
  | .reboot seconds => l.deferWrite t node (.reboot seconds (some id))
  -- its caller is told that the write is queued
  | .removeFavoriteNode nodeNum => (l.deferWrite t node (.removeFavoriteNode nodeNum)).tell id .ok none

def rejectNoNum (id : RequestId) (l : AdminLink) : MeshtasticAdminRequest → AdminLink
  | .getSnapshot => l.tell id (.snapshot ⟨none, none, none⟩) none
  | _ => l.tell id (.error "node num not yet received from radio") none

def takeRequest (t : Turn) (id : RequestId) (req : MeshtasticAdminRequest) (l : AdminLink) : AdminLink :=
  match l.myNodeNum with
  | some node => l.handleRequest t node id req
  | none => l.rejectNoNum id req

/-! ## Everything that can happen -/

/-- The connection is gone, or was not made. -/
def drop (l : AdminLink) : AdminLink :=
  { l with peer := none, epoch := l.epoch + 1, events := l.events ++ [.disconnected true] }

/-- A key that the connected radio itself gives out. -/
def issues (l : AdminLink) (frame : FromRadio) : List Issue :=
  match frame, harvestSessionPasskey frame with
  | .packet received, some passkey =>
      if l.peer = some received.sender then [⟨passkey, l.epoch, l.queuedWrites⟩] else []
  | _, _ => []

/-- A caller puts its request in the admin channel. -/
def call (l : AdminLink) (req : MeshtasticAdminRequest) : AdminLink :=
  { l with
    requests := l.requests ++ [req]
    adminChannel := l.adminChannel ++ [l.requests.length] }

inductive Label where
  | call (req : MeshtasticAdminRequest)
  | take (t : Turn)
  -- the caller gives up, after ten seconds
  | timeout (id : RequestId)
  | reap (now : Instant)
  -- a text, a heartbeat, the sync request
  | other
  | write
  | writeError
  | receive (frame : FromRadio)
  | process (t : Turn)
  | disconnect
  | reconnect (node : NodeNum)
  | shutdown

def step (l : AdminLink) : Label → Option AdminLink
  | .call req => if l.running then some (l.call req) else none
  | .take t =>
      match l.running, l.adminChannel with
      | true, id :: rest => (l.requests[id]?).map fun req =>
          { l with adminChannel := rest }.takeRequest t id req
      | _, _ => none
  | .timeout id =>
      if id < l.requests.length ∧ l.tells id = 0 then
        some { l with told := l.told ++ [⟨id, .timedOut, none⟩] }
      else none
  | .reap now => if l.running then some (l.reap now) else none
  | .other => some (l.send .other)
  | .write =>
      match l.channel with
      | frame :: rest =>
          if l.peer.isSome then
            some { l with channel := rest, written := l.written ++ [⟨frame, l.epoch⟩] }
          else none
      | [] => none
  -- the frame has left the channel when the write fails
  | .writeError =>
      match l.channel with
      | _ :: rest => if l.peer.isSome then some { l with channel := rest }.drop else none
      | [] => none
  | .receive frame =>
      if l.peer.isSome then
        some { l with events := l.events ++ [.fromRadio frame], issued := l.issued ++ l.issues frame }
      else none
  | .process t =>
      match l.running, l.events with
      | true, event :: rest => some ({ l with events := rest }.handleEvent t event)
      | _, _ => none
  | .disconnect => some l.drop
  | .reconnect node =>
      if l.peer.isSome then none
      else some { l with peer := some node, events := l.events ++ [.connected] }
  | .shutdown => if l.running then some l.stop else none

def Steps (label : Label) (l l' : AdminLink) : Prop := l.step label = some l'

end AdminLink
end SupplyDrop.Mesh.Admin
