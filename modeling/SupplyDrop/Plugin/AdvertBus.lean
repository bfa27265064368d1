import Mathlib
import SupplyDrop.Library.KeyedTable

namespace SupplyDrop.Plugin
open Library

/-! ## Records -/

abbrev AdvertKey := BitVec 256

def protectGraceSecs : Nat := 300

structure AdvertRecord where
  pubkeyHex : String
  name : String
  advType : BitVec 8
  -- in degrees; the float is taken to be exact
  lat : ℚ
  lon : ℚ
  firstSeenSecs : Int
  lastSeenSecs : Int
  transport : String
  hasFullRecord : Bool
  flags : BitVec 8
  protectedAt : Option Nat
  unprotectedAt : Option Nat
  nodeNum : Option (BitVec 32)
  lastAdvertTimestamp : BitVec 32
  lastmod : BitVec 32
  outPath : List (BitVec 8)
  outPathLen : Int
  generation : Nat
deriving DecidableEq

def newRecord (pubkey : AdvertKey) (now : Int) (transport : String) : AdvertRecord where
  pubkeyHex := pubkey.toHex
  name := ""
  advType := 0
  lat := 0
  lon := 0
  firstSeenSecs := now
  lastSeenSecs := now
  transport
  hasFullRecord := false
  flags := 0
  protectedAt := none
  unprotectedAt := none
  nodeNum := none
  lastAdvertTimestamp := 0
  lastmod := 0
  outPath := []
  outPathLen := -1
  generation := 0

def absDiff (a b : Nat) : Nat := max a b - min a b

def withinGrace (t now : Nat) : Bool := absDiff t now < protectGraceSecs

def isEffectivelyProtected (record : AdvertRecord) (now : Nat) : Bool :=
  record.flags &&& 1 ≠ 0 || record.protectedAt.any fun t => withinGrace t now

def mergeProtectedBit (incomingBit : Bool) (protectedAt unprotectedAt : Option Nat) (now : Nat) :
    Bool :=
  match protectedAt.filter (withinGrace · now), unprotectedAt.filter (withinGrace · now) with
  | some p, some u => u ≤ p
  | some _, none => true
  | none, some _ => false
  | none, none => incomingBit

/-- What the wire tells in millionths of a degree. -/
def degrees (gps : Int) : ℚ := gps / 1000000

/-- The first six bytes of a key. -/
def prefix6 (pubkey : AdvertKey) : BitVec 48 := pubkey.extractLsb' 208 48

def minPlausibleTs : Int := 1577836800

def clockFudgeSecs : Int := 300

def plausibleTimestamp (deviceReported now : Int) : Int :=
  if minPlausibleTs ≤ deviceReported ∧ deviceReported ≤ now + clockFudgeSecs then
    deviceReported
  else now

/-! ## The bus -/

abbrev AdvertEntry := AdvertKey × AdvertRecord

structure AdvertBus where
  records : KeyedTable (Prod.fst : AdvertEntry → AdvertKey)
  nodeNumIndex : BitVec 32 → Option AdvertKey

namespace AdvertBus

def new : AdvertBus := ⟨.empty, fun _ => none⟩

def get? (bus : AdvertBus) (pubkey : AdvertKey) : Option AdvertRecord :=
  (bus.records.get? pubkey).map Prod.snd

/-- `records.entry(pubkey).or_insert_with(..)`, and what is then done to the entry. -/
def entry (bus : AdvertBus) (pubkey : AdvertKey) (fresh : AdvertRecord)
    (f : AdvertRecord → AdvertRecord) : AdvertBus :=
  { bus with records := bus.records.put (pubkey, f ((bus.get? pubkey).getD fresh)) }

/-- `records.get_mut(pubkey)`, and what is then done to the record. -/
def getMut (bus : AdvertBus) (pubkey : AdvertKey) (f : AdvertRecord → AdvertRecord) : AdvertBus :=
  { bus with records := bus.records.modify pubkey (fun e => (e.1, f e.2)) fun _ => rfl }

def upsert (pubkey : AdvertKey) (name : String) (advType : BitVec 8) (gpsLat gpsLon : Int)
    (transport : String) (now : Nat) (bus : AdvertBus) : AdvertBus :=
  bus.entry pubkey (newRecord pubkey now transport) fun entry =>
    { entry with
      name, advType, lat := degrees gpsLat, lon := degrees gpsLon, transport
      lastSeenSecs := now }

def upsertWithTimestamp (pubkey : AdvertKey) (name : String) (advType : BitVec 8)
    (gpsLat gpsLon deviceLastSeen : Int) (transport : String) (now : Nat) (bus : AdvertBus) :
    AdvertBus :=
  let lastSeen := plausibleTimestamp deviceLastSeen now
  let fresh := { newRecord pubkey now transport with lastSeenSecs := lastSeen }
  bus.entry pubkey fresh fun entry =>
    { entry with
      name, advType, lat := degrees gpsLat, lon := degrees gpsLon, transport
      lastSeenSecs := max lastSeen entry.lastSeenSecs }

def upsertShort (pubkey : AdvertKey) (transport : String) (now : Nat) (bus : AdvertBus) :
    AdvertBus :=
  bus.entry pubkey (newRecord pubkey now transport) fun entry =>
    { entry with lastSeenSecs := now, transport }

/-- What a sync makes of the protection of a record, `rest` being the bits it sets beside it. -/
def syncProtection (alreadyExisted incomingBit : Bool) (rest : BitVec 8) (now : Nat)
    (entry : AdvertRecord) : AdvertRecord :=
  let previousBit : Bool := entry.flags &&& 1 ≠ 0
  let mergedBit := mergeProtectedBit incomingBit entry.protectedAt entry.unprotectedAt now
  let entry := { entry with flags := rest ||| if mergedBit then 1 else 0 }
  if mergedBit = previousBit then entry
  else
    let entry := { entry with generation := entry.generation + 1 }
    if alreadyExisted then entry
    else if mergedBit then { entry with protectedAt := some now, unprotectedAt := none }
    else { entry with protectedAt := none, unprotectedAt := some now }

def upsertContact (pubkey : AdvertKey) (name : String) (advType : BitVec 8)
    (gpsLat gpsLon deviceLastSeen : Int) (flags : BitVec 8)
    (lastAdvertTimestamp lastmod : BitVec 32) (outPath : List (BitVec 8)) (outPathLen : Int)
    (transport : String) (now : Nat) (bus : AdvertBus) : AdvertBus :=
  let lastSeen := plausibleTimestamp deviceLastSeen now
  let alreadyExisted := (bus.get? pubkey).isSome
  bus.entry pubkey (newRecord pubkey now transport) fun entry =>
    syncProtection alreadyExisted (flags &&& 1 ≠ 0) (flags &&& ~~~1) now
      { entry with
        name, advType, lat := degrees gpsLat, lon := degrees gpsLon, transport
        lastSeenSecs := max lastSeen entry.lastSeenSecs
        hasFullRecord := true
        lastAdvertTimestamp :=
          BitVec.ofInt 32 (plausibleTimestamp lastAdvertTimestamp.toNat now)
        lastmod, outPath, outPathLen }

def upsertMeshtasticNode (pubkey : AdvertKey) (nodeNum : BitVec 32) (name : String)
    (role : BitVec 8) (gpsLat gpsLon : Int) (isFavorite : Option Bool) (transport : String)
    (now : Nat) (bus : AdvertBus) : Bool × AdvertBus :=
  let identityChanged := (bus.nodeNumIndex nodeNum).any fun existing => existing ≠ pubkey
  let indexed := { bus with
    nodeNumIndex := fun n => if n = nodeNum then some pubkey else bus.nodeNumIndex n }
  let alreadyExisted := (bus.get? pubkey).isSome
  let stored := indexed.entry pubkey (newRecord pubkey now transport) fun entry =>
    let entry := { entry with
      name, advType := role, lat := degrees gpsLat, lon := degrees gpsLon, transport
      lastSeenSecs := now
      hasFullRecord := true
      nodeNum := some nodeNum }
    match isFavorite with
    | some isFavorite => syncProtection alreadyExisted isFavorite 0 now entry
    | none => entry
  (identityChanged, stored)

/-! ## Protection -/

structure FavouriteSnapshot where
  pubkey : AdvertKey
  name : String
  advType : BitVec 8
  lat : ℚ
  lon : ℚ
  lastAdvertTimestamp : BitVec 32
  lastmod : BitVec 32
  outPath : List (BitVec 8)
  outPathLen : Int
  flags : BitVec 8
  protectedAt : Nat
  generation : Nat
deriving DecidableEq

inductive FavouriteOutcome where
  | nowProtected (snapshot : FavouriteSnapshot)
  | protectedWithEviction (snapshot : FavouriteSnapshot) (victim : AdvertKey)
      (before : AdvertRecord)
  | alreadyProtected
  | ineligible
  | noRecordYet
  | capReached
deriving DecidableEq

/-- The order a `HashMap` iterates in. -/
structure RecordOrder where
  order : List AdvertEntry → List AdvertEntry
  perm : ∀ l, (order l).Perm l

def RecordOrder.same : RecordOrder := ⟨id, List.Perm.refl⟩

def protectedCount (bus : AdvertBus) (transport : String) (now : Nat) : Nat :=
  bus.records.entries.countP fun e => e.2.transport = transport && isEffectivelyProtected e.2 now

def protect (now : Nat) (record : AdvertRecord) : AdvertRecord :=
  { record with
    flags := record.flags ||| 1
    protectedAt := some now
    unprotectedAt := none
    generation := record.generation + 1 }

/-- `none` where the caller had confirmed no record. -/
def protectRecord (pubkey : AdvertKey) (now : Nat) (bus : AdvertBus) :
    Option (FavouriteSnapshot × AdvertBus) := do
  let record ← (bus.get? pubkey).map (protect now)
  pure ({
    pubkey
    name := record.name
    advType := record.advType
    lat := record.lat
    lon := record.lon
    lastAdvertTimestamp := record.lastAdvertTimestamp
    lastmod := record.lastmod
    outPath := record.outPath
    outPathLen := record.outPathLen
    flags := record.flags
    protectedAt := now
    generation := record.generation }, bus.getMut pubkey (protect now))

def release (now : Nat) (record : AdvertRecord) : AdvertRecord :=
  { record with
    flags := record.flags &&& ~~~1
    protectedAt := none
    unprotectedAt := some now
    generation := record.generation + 1 }

def unprotect (pubkey : AdvertKey) (now : Nat) (bus : AdvertBus) :
    Option AdvertRecord × AdvertBus :=
  match bus.get? pubkey with
  | none => (none, bus)
  | some record =>
      if isEffectivelyProtected record now then
        (some record, bus.getMut pubkey (release now))
      else (none, bus)

/-- The entries `decide_favourite` may make room with. -/
def evictable (pubkey : AdvertKey) (transport : String) (excludePrefixes : List (BitVec 48))
    (now : Nat) (e : AdvertEntry) : Bool :=
  e.1 ≠ pubkey && e.2.transport = transport && isEffectivelyProtected e.2 now &&
    !excludePrefixes.contains (prefix6 e.1) &&
    !e.2.protectedAt.any fun t => withinGrace t now

/-- `none` where one of its `expect`s would panic. A classifier that panics answers `none`. -/
def decideFavourite (pubkey : AdvertKey) (isEligible : BitVec 8 → Option Bool)
    (protectedCap : Nat) (excludePrefixes : List (BitVec 48)) (hash : RecordOrder) (now : Nat)
    (bus : AdvertBus) : Option (FavouriteOutcome × AdvertBus) :=
  match bus.get? pubkey with
  | none => some (.noRecordYet, bus)
  | some record =>
    if !record.hasFullRecord then some (.noRecordYet, bus)
    else if isEffectivelyProtected record now then some (.alreadyProtected, bus)
    else if isEligible record.advType ≠ some true then some (.ineligible, bus)
    else if protectedCap = 0 then some (.capReached, bus)
    else if bus.protectedCount record.transport now < protectedCap then
      (bus.protectRecord pubkey now).map fun (snapshot, bus) => (.nowProtected snapshot, bus)
    else
      let candidates := (hash.order bus.records.entries).filter
        (evictable pubkey record.transport excludePrefixes now)
      match candidates.argmin fun e => e.2.protectedAt.getD 0 with
      | none => some (.capReached, bus)
      | some (victim, _) =>
        match bus.unprotect victim now with
        | (none, _) => none
        | (some before, bus) => (bus.protectRecord pubkey now).map fun (snapshot, bus) =>
            (.protectedWithEviction snapshot victim before, bus)

def markFavouriteIfEligible (pubkey : AdvertKey) (isEligible : BitVec 8 → Option Bool)
    (protectedCap : Nat) (excludePrefixes : List (BitVec 48)) (hash : RecordOrder) (now : Nat)
    (bus : AdvertBus) : Option (FavouriteOutcome × AdvertBus) :=
  decideFavourite pubkey isEligible protectedCap excludePrefixes hash now bus

def markFavouriteIfEligibleByNodeNum (nodeNum : BitVec 32) (isEligible : BitVec 8 → Option Bool)
    (protectedCap : Nat) (excludePrefixes : List (BitVec 48)) (hash : RecordOrder) (now : Nat)
    (bus : AdvertBus) : Option (FavouriteOutcome × AdvertBus) :=
  match bus.nodeNumIndex nodeNum with
  | none => some (.noRecordYet, bus)
  | some pubkey => decideFavourite pubkey isEligible protectedCap excludePrefixes hash now bus

def revertProtect (pubkey : AdvertKey) (expectedGeneration : Nat) (bus : AdvertBus) : AdvertBus :=
  bus.getMut pubkey fun record =>
    if record.generation = expectedGeneration then
      { record with
        flags := record.flags &&& ~~~1
        protectedAt := none
        generation := record.generation + 1 }
    else record

def revertProtectByNodeNum (nodeNum : BitVec 32) (expectedGeneration : Nat) (bus : AdvertBus) :
    AdvertBus :=
  match bus.nodeNumIndex nodeNum with
  | none => bus
  | some pubkey => revertProtect pubkey expectedGeneration bus

def isCurrentlyFavourited (pubkey : AdvertKey) (now : Nat) (bus : AdvertBus) : Bool :=
  (bus.get? pubkey).any fun r => isEffectivelyProtected r now

def nodeNumOwningPubkey (pubkey : AdvertKey) (bus : AdvertBus) : Option (BitVec 32) :=
  (bus.get? pubkey).bind (·.nodeNum)

/-- The unprotected record of the transport that was seen the longest ago. -/
def stalestPubkeyExcluding (excludePrefixes : List (BitVec 48)) (transport : String)
    (hash : RecordOrder) (now : Nat) (bus : AdvertBus) : Option AdvertKey :=
  let candidates := (hash.order bus.records.entries).filter fun e =>
    e.2.transport = transport && !excludePrefixes.contains (prefix6 e.1) &&
      !isEffectivelyProtected e.2 now
  (candidates.minOn? fun e => e.2.lastSeenSecs).map Prod.fst

def clearUnprotected (now : Nat) (bus : AdvertBus) : Nat × AdvertBus :=
  let toRemove := (bus.records.entries.filter fun e => !isEffectivelyProtected e.2 now).map Prod.fst
  (toRemove.length,
    { records := bus.records.filter fun e => !toRemove.contains e.1
      nodeNumIndex := fun n => (bus.nodeNumIndex n).filter fun pk => !toRemove.contains pk })

/-! ## Sequences of operations -/

inductive Op where
  | upsert (pubkey : AdvertKey) (name : String) (advType : BitVec 8) (gpsLat gpsLon : Int)
      (transport : String)
  | upsertWithTimestamp (pubkey : AdvertKey) (name : String) (advType : BitVec 8)
      (gpsLat gpsLon deviceLastSeen : Int) (transport : String)
  | upsertShort (pubkey : AdvertKey) (transport : String)
  | upsertContact (pubkey : AdvertKey) (name : String) (advType : BitVec 8)
      (gpsLat gpsLon deviceLastSeen : Int) (flags : BitVec 8)
      (lastAdvertTimestamp lastmod : BitVec 32) (outPath : List (BitVec 8)) (outPathLen : Int)
      (transport : String)
  | upsertMeshtasticNode (pubkey : AdvertKey) (nodeNum : BitVec 32) (name : String)
      (role : BitVec 8) (gpsLat gpsLon : Int) (isFavorite : Option Bool) (transport : String)
  | markFavouriteIfEligible (pubkey : AdvertKey) (isEligible : BitVec 8 → Option Bool)
      (protectedCap : Nat) (excludePrefixes : List (BitVec 48)) (hash : RecordOrder)
  | markFavouriteIfEligibleByNodeNum (nodeNum : BitVec 32) (isEligible : BitVec 8 → Option Bool)
      (protectedCap : Nat) (excludePrefixes : List (BitVec 48)) (hash : RecordOrder)
  | unprotect (pubkey : AdvertKey)
  | revertProtect (pubkey : AdvertKey) (expectedGeneration : Nat)
  | revertProtectByNodeNum (nodeNum : BitVec 32) (expectedGeneration : Nat)
  | clearUnprotected

/-- One operation, at the time the clock then reads. -/
def run (bus : AdvertBus) : Op × Nat → Option AdvertBus
  | (.upsert pubkey name advType gpsLat gpsLon transport, now) =>
      some (upsert pubkey name advType gpsLat gpsLon transport now bus)
  | (.upsertWithTimestamp pubkey name advType gpsLat gpsLon deviceLastSeen transport, now) =>
      some (upsertWithTimestamp pubkey name advType gpsLat gpsLon deviceLastSeen transport now bus)
  | (.upsertShort pubkey transport, now) => some (upsertShort pubkey transport now bus)
  | (.upsertContact pubkey name advType gpsLat gpsLon deviceLastSeen flags lastAdvertTimestamp
      lastmod outPath outPathLen transport, now) =>
      some (upsertContact pubkey name advType gpsLat gpsLon deviceLastSeen flags
        lastAdvertTimestamp lastmod outPath outPathLen transport now bus)
  | (.upsertMeshtasticNode pubkey nodeNum name role gpsLat gpsLon isFavorite transport, now) =>
      some (upsertMeshtasticNode pubkey nodeNum name role gpsLat gpsLon isFavorite transport now
        bus).2
  | (.markFavouriteIfEligible pubkey isEligible protectedCap excludePrefixes hash, now) =>
      (markFavouriteIfEligible pubkey isEligible protectedCap excludePrefixes hash now bus).map
        Prod.snd
  | (.markFavouriteIfEligibleByNodeNum nodeNum isEligible protectedCap excludePrefixes hash,
      now) =>
      (markFavouriteIfEligibleByNodeNum nodeNum isEligible protectedCap excludePrefixes hash now
        bus).map Prod.snd
  | (.unprotect pubkey, now) => some (unprotect pubkey now bus).2
  | (.revertProtect pubkey expectedGeneration, _) =>
      some (revertProtect pubkey expectedGeneration bus)
  | (.revertProtectByNodeNum nodeNum expectedGeneration, _) =>
      some (revertProtectByNodeNum nodeNum expectedGeneration bus)
  | (.clearUnprotected, now) => some (clearUnprotected now bus).2

end AdvertBus
end SupplyDrop.Plugin
