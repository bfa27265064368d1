import Mathlib
import SupplyDrop.Mesh.SendTracker
import SupplyDrop.Transport.Meshtastic

namespace SupplyDrop.Mesh.Admin
open Transport.Meshtastic (NodeNum)

/-! ## Frames -/

abbrev PacketId := BitVec 32
abbrev Passkey := List (BitVec 8)

/-- The record of the plugin API has the same fields. A float is its bits. -/
structure LoRaConfig where
  usePreset : Bool
  modemPreset : Int
  bandwidth : BitVec 32
  spreadFactor : BitVec 32
  codingRate : BitVec 32
  frequencyOffset : BitVec 32
  region : Int
  hopLimit : BitVec 32
  txEnabled : Bool
  txPower : Int
  channelNum : BitVec 32
  overrideFrequency : BitVec 32
  sx126xRxBoostedGain : Bool
  ignoreMqtt : Bool
deriving DecidableEq

structure User where
  id : String
  longName : String
  shortName : String
  role : Int
  publicKey : List (BitVec 8)
deriving DecidableEq

structure SecurityConfig where
  publicKey : List (BitVec 8)
  privateKey : List (BitVec 8)
  adminChannelEnabled : Bool
deriving DecidableEq

structure DeviceConfig where
  role : Int
  serialEnabled : Bool
  buttonGpio : BitVec 32
  buzzerGpio : BitVec 32
  rebroadcastMode : Int
  nodeInfoBroadcastSecs : Nat
  doubleTapAsButtonPress : Bool
  isManaged : Bool
  disableTripleClick : Bool
  tzdef : String
  ledHeartbeatDisabled : Bool
  buzzerMode : Int
deriving DecidableEq

inductive MtConfig where
  | device (config : DeviceConfig)
  | lora (config : LoRaConfig)
  | security (config : SecurityConfig)
deriving DecidableEq

inductive AdminPayload where
  | getOwnerResponse (user : User)
  | getConfigResponse (config : Option MtConfig)
  -- a request or a write, the radio's own or another node's
  | other
deriving DecidableEq

structure AdminMessage where
  payloadVariant : Option AdminPayload
  sessionPasskey : Passkey
deriving DecidableEq

def portAdminApp : Int := 6

/-- The payload as `AdminMessage::decode` gives it. -/
structure Data where
  portnum : Int
  payload : Except String AdminMessage
  requestId : PacketId
  replyId : PacketId
deriving DecidableEq

structure MeshPacket where
  sender : NodeNum
  -- none where the packet is encrypted
  decoded : Option Data
deriving DecidableEq

inductive FromRadio where
  | packet (packet : MeshPacket)
  | myInfo (myNodeNum : NodeNum)
  | nodeInfo (num : NodeNum) (user : Option User)
  | config (config : Option MtConfig)
  | configCompleteId
  | other
deriving DecidableEq

def FromRadio.adminData : FromRadio → Option Data
  | .packet received => received.decoded.filter fun data => data.portnum = portAdminApp
  | _ => none

def harvestSessionPasskey (frame : FromRadio) : Option Passkey :=
  match frame.adminData with
  | some data =>
      match data.payload with
      | .ok msg => if msg.sessionPasskey.isEmpty then none else some msg.sessionPasskey
      | .error _ => none
  | none => none

/-! ## Requests and what their callers are told -/

abbrev RequestId := Nat

inductive Get where
  | lora
  | owner
  | security
deriving DecidableEq

inductive MeshtasticAdminRequest where
  | get (get : Get)
  | getSnapshot
  | setLoRaConfig (config : LoRaConfig)
  | setOwner (longName shortName : Option String)
  | reboot (seconds : Int)
  | removeFavoriteNode (nodeNum : NodeNum)
deriving DecidableEq

structure OwnerInfo where
  id : String
  longName : String
  shortName : String
  publicKeyHex : String
deriving DecidableEq

structure SecurityInfo where
  publicKeyHex : String
  adminChannelEnabled : Bool
deriving DecidableEq

structure DeviceSnapshot where
  lora : Option LoRaConfig
  owner : Option OwnerInfo
  security : Option SecurityInfo
deriving DecidableEq

inductive Outcome where
  | lora (config : LoRaConfig)
  | owner (info : OwnerInfo)
  | security (info : SecurityInfo)
  | snapshot (snapshot : DeviceSnapshot)
  | ok
  | error (text : String)
  -- what the caller makes of a reply that does not come
  | timedOut
  | cancelled
deriving DecidableEq

/-- What a caller was told, and the packet that said so. -/
structure Delivery where
  request : RequestId
  outcome : Outcome
  answered : Option Data
deriving DecidableEq

def hexDigit (n : Nat) : Char := "0123456789abcdef".toList.getD n '0'

def hexEncode (bytes : List (BitVec 8)) : String :=
  String.ofList (bytes.flatMap fun b => [hexDigit (b.toNat / 16), hexDigit (b.toNat % 16)])

def ownerInfo (user : User) : OwnerInfo :=
  ⟨user.id, user.longName, user.shortName, hexEncode user.publicKey⟩

def securityInfo (config : SecurityConfig) : SecurityInfo :=
  ⟨hexEncode config.publicKey, config.adminChannelEnabled⟩

/-- What a response says to each kind of read. -/
def Get.outcome : Get → Except String AdminMessage → Outcome
  | _, .error e => .error ("failed to decode admin response: " ++ e)
  | .lora, .ok msg =>
      match msg.payloadVariant with
      | some (.getConfigResponse (some (.lora config))) => .lora config
      | _ => .error "unexpected admin response (expected LoRa config)"
  | .owner, .ok msg =>
      match msg.payloadVariant with
      | some (.getOwnerResponse user) => .owner (ownerInfo user)
      | _ => .error "unexpected admin response (expected owner info)"
  | .security, .ok msg =>
      match msg.payloadVariant with
      | some (.getConfigResponse (some (.security config))) => .security (securityInfo config)
      | _ => .error "unexpected admin response (expected security config)"

structure PendingAdmin where
  get : Get
  requestId : PacketId
  reply : RequestId
deriving DecidableEq

inductive DeferredWrite where
  | lora (lora : LoRaConfig) (reply : Option RequestId)
  | owner (user : User) (reply : Option RequestId)
  | device (device : DeviceConfig)
  | reboot (secs : Int) (reply : Option RequestId)
  | time
  | setFixedPosition (lat lon : BitVec 64)
  | removeFixedPosition
  | setFavoriteNode (nodeNum : NodeNum) (expectedGeneration : Nat)
  | removeFavoriteNode (nodeNum : NodeNum)
deriving DecidableEq

def DeferredWrite.reply : DeferredWrite → Option RequestId
  | .lora _ reply => reply
  | .owner _ reply => reply
  | .reboot _ reply => reply
  | _ => none

/-- A write in the order in which the loop queued them. -/
structure Deferred where
  serial : Nat
  write : DeferredWrite
deriving DecidableEq

inductive ToRadio where
  | adminGet (toNode : NodeNum) (id : PacketId) (get : Get)
  | adminGetSessionKey (toNode : NodeNum) (id : PacketId)
  | adminWrite (toNode : NodeNum) (id : PacketId) (write : Deferred) (sessionPasskey : Passkey)
  -- a text, a heartbeat, the sync request
  | other
deriving DecidableEq

inductive ClientEvent where
  | connected
  | disconnected (willRetry : Bool)
  | fromRadio (frame : FromRadio)
deriving DecidableEq

def randomPacketId (clock : BitVec 32) : PacketId :=
  ((clock * 2654435761).rotateLeft 13 ^^^ 0x9E3779B9) ||| 1

/-! ## Settings applied on connecting -/

structure MeshtasticRadioConfig where
  region : Option String
  modemPreset : Option String
  hops : BitVec 32
  txEnabled : Bool
  rxBoostedGain : Bool
  ignoreMqtt : Bool
deriving DecidableEq

structure AutoApplyConfig where
  radio : Option MeshtasticRadioConfig
  shortName : Option String
  longName : Option String
deriving DecidableEq

def regions : List String :=
  ["US", "EU_433", "EU_868", "CN", "JP", "ANZ", "KR", "TW", "RU", "IN", "NZ_865", "TH", "LORA_24",
    "UA_433", "UA_868", "MY_433", "MY_919", "SG_923"]

def regionStrToInt (name : String) : Int :=
  if name ∈ regions then regions.idxOf name + 1 else 0

def presets : List String :=
  ["LONG_FAST", "LONG_SLOW", "VERY_LONG_SLOW", "MEDIUM_SLOW", "MEDIUM_FAST", "SHORT_SLOW", "SHORT_FAST",
    "LONG_MODERATE", "SHORT_TURBO", "LONG_TURBO", "LITE_FAST", "LITE_SLOW", "NARROW_FAST",
    "NARROW_SLOW"]

def presetStrToInt (name : String) : Int := if name ∈ presets then presets.idxOf name else 0

/-- The configured settings over what the radio reports. -/
def MeshtasticRadioConfig.overlay (radio : MeshtasticRadioConfig) (current : LoRaConfig) : LoRaConfig :=
  { current with
    usePreset := true
    modemPreset := (radio.modemPreset.map presetStrToInt).getD current.modemPreset
    region := (radio.region.map regionStrToInt).getD current.region
    hopLimit := radio.hops
    txEnabled := radio.txEnabled
    sx126xRxBoostedGain := radio.rxBoostedGain
    ignoreMqtt := radio.ignoreMqtt }

/-- A float, given as its bits. -/
def isNaN (x : BitVec 32) : Bool := 0x7F800000 < x &&& 0x7FFFFFFF

/-- What `==` says of two floats. -/
def floatEq (a b : BitVec 32) : Bool :=
  !isNaN a && !isNaN b && (a = b || (a ||| b) &&& 0x7FFFFFFF = 0)

/-- The derived `PartialEq`. -/
def LoRaConfig.partialEq (a b : LoRaConfig) : Bool :=
  floatEq a.frequencyOffset b.frequencyOffset && floatEq a.overrideFrequency b.overrideFrequency &&
    { a with frequencyOffset := 0, overrideFrequency := 0 } =
      { b with frequencyOffset := 0, overrideFrequency := 0 }

def clamp (s : String) (maxChars : Nat) : String := String.ofList (s.toList.take maxChars)

def ownerUser (longName shortName : Option String) : User where
  id := ""
  longName := (longName.map fun s => clamp s 39).getD ""
  shortName := (shortName.map fun s => clamp s 4).getD ""
  role := 0
  publicKey := []

def nodeInfoBroadcastSecs : Nat := 3600

end SupplyDrop.Mesh.Admin
