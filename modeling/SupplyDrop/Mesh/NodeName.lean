import SupplyDrop.Library.Clip
import SupplyDrop.Library.Text
import SupplyDrop.Store.Types

namespace SupplyDrop.Mesh
open Library

/-! ## Names that fit into an advert -/

/-- `MAX_MESH_NODE_NAME_BYTES` -/
def meshNodeNameBytes : Nat := 31

def locationAdvertBytes : Nat := 8

def maxMeshNodeNameBytes (sharingLocation : Bool) : Nat :=
  if sharingLocation then meshNodeNameBytes - locationAdvertBytes else meshNodeNameBytes

inductive InvalidNodeName where
  | empty
  | tooLong (actual max : Nat) (sharingLocation : Bool)
  | controlCharacter (c : Char)
deriving DecidableEq

def InvalidNodeName.display : InvalidNodeName → String
  | empty => "node name must not be empty"
  | tooLong actual max sharingLocation =>
      let limit := if sharingLocation then "with GPS location shared, " else ""
      s!"node name is {actual} bytes; maximum is {max} ({limit}MeshCore advert limit)"
  | controlCharacter c =>
      s!"node name contains a control character: {Store.InvalidUsername.debugChar c}"

def validateMeshNodeName (s : String) (sharingLocation : Bool) : Except InvalidNodeName Unit :=
  if s.isEmpty then .error .empty
  else
    let max := maxMeshNodeNameBytes sharingLocation
    if max < s.utf8ByteSize then .error (.tooLong s.utf8ByteSize max sharingLocation)
    else
      match s.toList.find? Text.isControl with
      | some c => .error (.controlCharacter c)
      | none => .ok ()

section Format
-- the general category `Format`, from the table of a library
variable (isFormat : Char → Bool)

def stripDisplaySpoofingCodepoints (s : String) : String :=
  String.ofList (s.toList.filter fun c => !isFormat c)

def isCharBoundary (s : String) (n : Nat) : Bool :=
  s.toList.inits.any fun part => Clip.total Char.utf8Size part = n

/-- `while end > 0 && !is_char_boundary(end) { end -= 1 }` -/
def lastBoundary (s : String) : Nat → Nat
  | 0 => 0
  | n + 1 => if isCharBoundary s (n + 1) then n + 1 else lastBoundary s n

/-- `s[..n]`, at a boundary. -/
def bytesTo (s : String) (n : Nat) : String :=
  String.ofList (Clip.fitting Char.utf8Size s.toList n)

def truncateMeshNodeName (s : String) (sharingLocation : Bool) : String :=
  let cleaned := stripDisplaySpoofingCodepoints isFormat s
  let max := maxMeshNodeNameBytes sharingLocation
  if cleaned.utf8ByteSize ≤ max then cleaned else bytesTo cleaned (lastBoundary cleaned max)

end Format

/-! ## What the host knows of the node -/

/-- The name and the location, and the lock of the latter. -/
structure AdvertHost (L : Type) where
  nodeName : Option String
  location : Option L
  shareInAdvert : Bool

namespace AdvertHost
variable {L : Type}

def advertLocationState (h : AdvertHost L) : Option (L × Bool) :=
  h.location.map fun location => (location, h.shareInAdvert)

/-- What the transport makes of one snapshot. -/
def sharingLocation (h : AdvertHost L) : Bool := h.advertLocationState.any (·.2)

inductive Change (L : Type) where
  -- the program starts with the configured name
  | setNodeName (configured : String)
  | setNodeLocation (location : Option L)
  | setShareLocationInAdvert (share : Bool)
  | setAdvertLocationState (location : Option (Option L)) (share : Option Bool)

def apply (isFormat : Char → Bool) (h : AdvertHost L) : Change L → AdvertHost L
  | .setNodeName configured =>
      { h with nodeName := some (truncateMeshNodeName isFormat configured false) }
  | .setNodeLocation location => { h with location }
  | .setShareLocationInAdvert share => { h with shareInAdvert := share }
  | .setAdvertLocationState location share =>
      { h with location := location.getD h.location, shareInAdvert := share.getD h.shareInAdvert }

end AdvertHost

/-! ## Sending an advert -/

structure DeviceOtherParams where
  manualAddContacts : UInt8
  telemetryModes : UInt8
  advertLocPolicy : UInt8
  multiAcks : UInt8
deriving DecidableEq

def advertLocNone : UInt8 := 0

def advertLocShare : UInt8 := 1

inductive AdvertFrame (L : Type) where
  | setAdvertName (name : String)
  | setAdvertLatlon (location : L)
  | setOtherParams (params : DeviceOtherParams)
  | setPathHashMode (mode : UInt8)
  | sendSelfAdvert (flood : Bool)

section Sequences
variable {L : Type} (isFormat : Char → Bool)

def latlonFrames (state : Option (L × Bool)) : List (AdvertFrame L) :=
  (state.map fun (location, _) => .setAdvertLatlon location).toList

/-- The frames of `sync_advert_location_policy`, by the parameters the device was last known to
have. -/
def policyFrames (sharingLocation : Bool) (params : Option DeviceOtherParams) :
    List (AdvertFrame L) :=
  let desired := if sharingLocation then advertLocShare else advertLocNone
  match params with
  | some params =>
      if params.advertLocPolicy ≠ desired then
        [.setOtherParams { params with advertLocPolicy := desired }]
      else []
  | none => []

/-- A name that has nothing left is not sent, and the radio keeps the one it has. -/
def nameFrames (nodeName : Option String) (sharingLocation : Bool) : List (AdvertFrame L) :=
  match nodeName with
  | some nodeName =>
      let name := truncateMeshNodeName isFormat nodeName sharingLocation
      if name.isEmpty then [] else [.setAdvertName name]
  | none => []

/-- The host is asked for the location first and for the name later. -/
def broadcastSelfAdvert (atSnapshot atName : AdvertHost L) (params : Option DeviceOtherParams)
    (flood : Bool) : List (AdvertFrame L) :=
  latlonFrames atSnapshot.advertLocationState ++
    policyFrames atSnapshot.sharingLocation params ++
    nameFrames isFormat atName.nodeName atSnapshot.sharingLocation ++ [.sendSelfAdvert flood]

/-- The sequence on connect, once the device has told its `SelfInfo`. -/
def connectAdvert (atSnapshot atName : AdvertHost L) (params : Option DeviceOtherParams)
    (pathHashMode : UInt8) (advertNow : Bool) : List (AdvertFrame L) :=
  nameFrames isFormat atName.nodeName atSnapshot.sharingLocation ++
    latlonFrames atSnapshot.advertLocationState ++
    policyFrames atSnapshot.sharingLocation params ++ [.setPathHashMode pathHashMode] ++
    if advertNow then [.sendSelfAdvert true] else []

end Sequences

end SupplyDrop.Mesh
