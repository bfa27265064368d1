import Mathlib
import SupplyDrop.Plugin.AdvertBus

namespace SupplyDrop.Mesh.Contacts
open Plugin Plugin.AdvertBus

/-! ## Frames -/

abbrev Prefix := BitVec 48

def transportName : String := "meshcore"

def advTypeChat : BitVec 8 := 1

def isMeshcoreChatType (advType : BitVec 8) : Bool := advType = advTypeChat

def maxPathSize : Nat := 64

structure Contact where
  pubkey : AdvertKey
  advType : BitVec 8
  flags : BitVec 8
  outPathLen : Int
  outPath : List (BitVec 8)
  name : String
  lastAdvertTimestamp : BitVec 32
  gpsLat : Int
  gpsLon : Int
  lastmod : BitVec 32
deriving DecidableEq

inductive OutboundFrame where
  | addUpdateContact (contact : Contact)
  | removeContact (pubkey : AdvertKey)
  -- any command that neither adds nor removes a contact
  | command
deriving DecidableEq

/-- `as i32`. -/
def asI32 (x : ℚ) : Int := max (-2147483648) (min 2147483647 (x.num.tdiv x.den))

/-- What the handler of a `Contact` frame tells the bus. -/
def ingest (contact : Contact) (now : Nat) (bus : AdvertBus) : AdvertBus :=
  upsertContact contact.pubkey contact.name contact.advType contact.gpsLat contact.gpsLon
    contact.lastAdvertTimestamp.toNat contact.flags contact.lastAdvertTimestamp contact.lastmod
    contact.outPath contact.outPathLen transportName now bus

def protectFrameFor (snapshot : FavouriteSnapshot) : OutboundFrame :=
  let path := snapshot.outPath.take maxPathSize
  .addUpdateContact {
    pubkey := snapshot.pubkey
    advType := snapshot.advType
    flags := snapshot.flags
    outPathLen := snapshot.outPathLen
    outPath := path ++ List.replicate (maxPathSize - path.length) 0
    name := snapshot.name
    lastAdvertTimestamp := snapshot.lastAdvertTimestamp
    gpsLat := asI32 (snapshot.lat * 1000000)
    gpsLon := asI32 (snapshot.lon * 1000000)
    lastmod := snapshot.lastmod }

/-! ## What the tasks are at -/

-- for reasoning only: why a contact is removed, and who had a session when that began
inductive Cause where
  | contactsFull (sessions : List Prefix)
  | capEviction (sessions : List Prefix)
  | sysopDelete

def Cause.sessions : Cause → List Prefix
  | contactsFull sessions | capEviction sessions => sessions
  | sysopDelete => []

/-- `try_protect_contact`, between its steps. -/
inductive ProtectStage where
  | idle
  | marking (pubkey : AdvertKey) (exclude sessions : List Prefix)
  | sending (snapshot : FavouriteSnapshot) (evicted : Option (AdvertKey × Cause))
  | reverting (pubkey : AdvertKey) (generation : Nat)

/-- The event loop, between the steps it takes for a frame or for a request. -/
inductive EventLoopStage where
  | idle
  | selecting (exclude sessions : List Prefix)
  | checking (pubkey : AdvertKey) (cause : Cause)
  | removing (pubkey : AdvertKey) (cause : Cause)
  | protecting (stage : ProtectStage)

-- for reasoning only
inductive Happening where
  | protectQueued (pubkey : AdvertKey)
  | removalQueued (pubkey : AdvertKey) (cause : Cause)
  -- what the bus was after a step
  | was (bus : AdvertBus) (clock : Nat)

/-- The tasks of the transport around the bus they share. -/
structure Tasks where
  bus : AdvertBus
  clock : Nat
  byPrefix : List Prefix
  selfPubkey : Option AdvertKey
  protectedContactCap : Nat
  outbound : List OutboundFrame
  eventLoop : EventLoopStage
  commandWorker : ProtectStage
  -- calls of `admin_remove_meshcore_contact` whose request is not sent yet
  calls : List (AdvertKey × Cause)
  requests : List (AdvertKey × Cause)
  log : List Happening

def commandCapacity : Nat := 32

def keyCapacity : Nat := 4

namespace Tasks

/-- `cmd_tx.try_send`. -/
def trySend (frame : OutboundFrame) (happening : List Happening) (t : Tasks) : Option Tasks :=
  if t.outbound.length < commandCapacity then
    some { t with outbound := t.outbound ++ [frame], log := t.log ++ happening }
  else none

/-- The active sessions' prefixes and our own. -/
def exclusion (t : Tasks) : List Prefix :=
  match t.selfPubkey.map prefix6 with
  | some own => if t.byPrefix.contains own then t.byPrefix else t.byPrefix ++ [own]
  | none => t.byPrefix

def tryProtectContact (pubkey : AdvertKey) (t : Tasks) : ProtectStage :=
  .marking pubkey t.exclusion t.byPrefix

def proceedProtect (hash : RecordOrder) (t : Tasks) : ProtectStage → ProtectStage × Tasks
  | .idle => (.idle, t)
  | .marking pubkey exclude sessions =>
      match t.bus.markFavouriteIfEligible pubkey (fun advType => some (isMeshcoreChatType advType))
        t.protectedContactCap exclude hash t.clock with
      | some (.nowProtected snapshot, bus) => (.sending snapshot none, { t with bus })
      | some (.protectedWithEviction snapshot victim _, bus) =>
          (.sending snapshot (some (victim, .capEviction sessions)), { t with bus })
      | some (_, bus) => (.idle, { t with bus })
      | none => (.idle, t)
  | .sending snapshot evicted =>
      match t.trySend (protectFrameFor snapshot) [.protectQueued snapshot.pubkey] with
      -- the removal of who was evicted is left to a task of its own
      | some t => (.idle, { t with calls := t.calls ++ evicted.toList })
      | none => (.reverting snapshot.pubkey snapshot.generation, t)
  | .reverting pubkey generation =>
      (.idle, { t with bus := t.bus.revertProtect pubkey generation })

/-- The next step of `handle_frame` or of the `key_rx` branch. -/
def proceedLoop (hash : RecordOrder) (t : Tasks) : Tasks :=
  match t.eventLoop with
  | .idle => t
  | .selecting exclude sessions =>
      match t.bus.stalestPubkeyExcluding exclude transportName hash t.clock with
      | some stale => { t with eventLoop := .checking stale (.contactsFull sessions) }
      | none => { t with eventLoop := .idle }
  | .checking pubkey cause =>
      if t.bus.isCurrentlyFavourited pubkey t.clock then { t with eventLoop := .idle }
      else { t with eventLoop := .removing pubkey cause }
  | .removing pubkey cause =>
      let sent := t.trySend (.removeContact pubkey) [.removalQueued pubkey cause]
      { sent.getD t with eventLoop := .idle }
  | .protecting stage =>
      match t.proceedProtect hash stage with
      | (.idle, t) => { t with eventLoop := .idle }
      | (stage, t) => { t with eventLoop := .protecting stage }

def proceedWorker (hash : RecordOrder) (t : Tasks) : Tasks :=
  match t.proceedProtect hash t.commandWorker with
  | (stage, t) => { t with commandWorker := stage }

/-- `api_delete_contact`. -/
def deleteContact (pubkey : AdvertKey) (t : Tasks) : Tasks :=
  match t.bus.unprotect pubkey t.clock with
  | (none, _) => t
  | (some record, bus) =>
      if record.transport = "meshtastic" then { t with bus }
      else { t with bus, calls := t.calls ++ [(pubkey, .sysopDelete)] }

end Tasks

/-! ## Steps -/

inductive Event where
  | clockReads (now : Nat)
  -- any operation on the bus that is not one of those below
  | elsewhere (op : Op)
  | sessionOpens (node : Prefix)
  | sessionCloses (node : Prefix)
  | selfKnown (pubkey : AdvertKey)
  | transmit
  | command
  | contactsFull
  | takeRequest
  | loopProtects (pubkey : AdvertKey)
  | loopProceeds (hash : RecordOrder)
  | workerProtects (pubkey : AdvertKey)
  | workerProceeds (hash : RecordOrder)
  | sysopDeletes (pubkey : AdvertKey)
  | callSends (n : Nat)
  -- no transport is connected
  | callFails (n : Nat)

def EventLoopStage.isIdle : EventLoopStage → Bool
  | idle => true
  | _ => false

def ProtectStage.isIdle : ProtectStage → Bool
  | idle => true
  | _ => false

namespace Tasks

def advance (t : Tasks) : Event → Tasks
  | .clockReads now => { t with clock := now }
  | .elsewhere op => { t with bus := (t.bus.run (op, t.clock)).getD t.bus }
  | .sessionOpens node => { t with byPrefix := node :: t.byPrefix }
  | .sessionCloses node => { t with byPrefix := t.byPrefix.filter (· ≠ node) }
  | .selfKnown pubkey => { t with selfPubkey := some pubkey }
  | .transmit => { t with outbound := t.outbound.tail }
  | .command => (t.trySend .command []).getD t
  | .contactsFull =>
      if t.eventLoop.isIdle then { t with eventLoop := .selecting t.exclusion t.byPrefix } else t
  | .takeRequest =>
      match t.eventLoop, t.requests with
      | .idle, (pubkey, cause) :: rest =>
          { t with eventLoop := .checking pubkey cause, requests := rest }
      | _, _ => t
  | .loopProtects pubkey =>
      if t.eventLoop.isIdle then
        { t with eventLoop := .protecting (t.tryProtectContact pubkey) }
      else t
  | .loopProceeds hash => t.proceedLoop hash
  | .workerProtects pubkey =>
      if t.commandWorker.isIdle then { t with commandWorker := t.tryProtectContact pubkey } else t
  | .workerProceeds hash => t.proceedWorker hash
  | .sysopDeletes pubkey => t.deleteContact pubkey
  | .callSends n =>
      match t.calls[n]? with
      | some call =>
          if t.requests.length < keyCapacity then
            { t with calls := t.calls.eraseIdx n, requests := t.requests ++ [call] }
          else t
      | none => t
  | .callFails n => { t with calls := t.calls.eraseIdx n }

def observed (t : Tasks) : Tasks := { t with log := t.log ++ [.was t.bus t.clock] }

def next (t : Tasks) (event : Event) : Tasks := (t.advance event).observed

end Tasks

def step (event : Event) (t t' : Tasks) : Prop := t' = t.next event

end SupplyDrop.Mesh.Contacts
