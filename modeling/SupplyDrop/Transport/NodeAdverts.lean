import Mathlib
import SupplyDrop.Plugin.AdvertBus
import SupplyDrop.Transport.Meshtastic

namespace SupplyDrop.Transport.Meshtastic
open Plugin

/-! ## `record_node_advert` -/

structure User where
  id : String
  longName : String
  role : Int
  publicKey : List (BitVec 8)
deriving DecidableEq

structure Position where
  latitudeI : Option Int
  longitudeI : Option Int
deriving DecidableEq

structure NodeInfo where
  num : NodeNum
  user : Option User
  position : Option Position
  isFavorite : Bool
deriving DecidableEq

def transportName : String := "meshtastic"

/-- `<[u8; 32]>::try_from`. -/
def key? (bytes : List (BitVec 8)) : Option AdvertKey :=
  if bytes.length = 32 then
    some (bytes.foldl (fun key byte => key <<< 8 ||| byte.setWidth 256) 0)
  else none

/-- The first two bytes of a key. -/
def prefix2 (pubkey : AdvertKey) : BitVec 16 := pubkey.extractLsb' 240 16

def formatNodeId (node : NodeNum) : String := "!" ++ node.toHex

/-- The key a node is recorded under. One in the synthetic name space, and one that another node
owns, is not adopted. -/
def reportedKey (node : NodeNum) (publicKey : List (BitVec 8)) (bus : AdvertBus) : AdvertKey :=
  (((key? publicKey).filter fun pk => prefix2 pk ≠ 0x4D54).filter fun pk =>
    (bus.nodeNumOwningPubkey pk).all (· = node)).getD (syntheticPubkey node)

def nodeName (node : NodeNum) (user : User) : String :=
  let name := if user.longName.isEmpty then user.id else user.longName
  if name.isEmpty then formatNodeId node else name

def nodeRole (role : Int) : BitVec 8 := if 0 ≤ role ∧ role ≤ 12 then BitVec.ofInt 8 role else 255

def recordNodeAdvert (node : NodeInfo) (isFullSync : Bool) (now : Nat) (bus : AdvertBus) :
    Bool × AdvertBus :=
  match node.user with
  | none => (false, bus)
  | some user =>
      let lat := ((node.position.bind (·.latitudeI)).getD 0).tdiv 10
      let lon := ((node.position.bind (·.longitudeI)).getD 0).tdiv 10
      bus.upsertMeshtasticNode (reportedKey node.num user.publicKey bus) node.num
        (nodeName node.num user) (nodeRole user.role) lat lon
        (if isFullSync then some node.isFavorite else none) transportName now

inductive BusInput where
  | nodeAdvert (node : NodeInfo) (isFullSync : Bool)
  -- what else the transports, the web admin and the sessions do to the bus
  | other (op : AdvertBus.Op)

def BusInput.isNodeUpsert : AdvertBus.Op → Bool
  | .upsertMeshtasticNode .. => true
  | _ => false

/-- One input, at the time the clock then reads. A node is upserted by its advert only. -/
def BusStep : BusInput × Nat → AdvertBus → AdvertBus → Prop
  | (.nodeAdvert node isFullSync, now), bus, bus' => bus' = (recordNodeAdvert node isFullSync now bus).2
  | (.other op, now), bus, bus' => BusInput.isNodeUpsert op = false ∧ bus.run (op, now) = some bus'

end SupplyDrop.Transport.Meshtastic
