import Mathlib
import SupplyDrop.Host.State
import SupplyDrop.Host.Format
import SupplyDrop.Store.Rooms
import SupplyDrop.Store.Messages
import SupplyDrop.Store.Blocks

namespace SupplyDrop.Host
open Library Store

def meshPage : Nat := 5
def maxBlockedSkip : Nat := 200

/-! ## Where a session reads -/

/-- Below `User`, a session stays in the guest room. -/
def withGuestRule (auth : Auth) (refusal : String) (k : HostM Response) : HostM Response := do
  let guestRoom ← peek (·.guestRoomId)
  if auth.level < .user ∧ some auth.roomId ≠ guestRoom then pure (.text refusal)
  else k

def withRoom (roomId : RoomId) (k : Room → HostM Response) : HostM Response := do
  let room ← db StoreError.display (RoomStore.getById roomId)
  match room with
  | none => Program.fail (.notFound s!"room:{roomId}")
  | some room => k room

def guestsRead : String := "You can only read messages in the Guests room."

def reading (session : SessionId) (k : Auth → Room → HostM Response) : HostM Response :=
  withAuth (sessionAuthOrGuest session) fun auth =>
    withGuestRule auth guestsRead (withRoom auth.roomId (k auth))

def blocksOf (auth : Auth) : HostM (List String) :=
  db StoreError.display (BlockStore.blocksBy auth.username.text)

def visibleTo (blocked : List String) (messages : List Message) : List Message :=
  messages.filter fun m => !blocked.contains m.sender.text

/-! ## N -/

def noNewMessages (room : Room) : Response := .text s!"No new messages in {room.name}."

def newestFor (auth : Auth) : StoreM (Option Message) :=
  if auth.roomId = mail then do
    let page ← MessageStore.listDirect auth.username none 1
    pure page.messages.head?
  else do
    let recent ← MessageStore.listRecentInRoom auth.roomId 1
    pure recent.head?

/-- A pointer that a delete has reset catches up without showing anything. -/
def repairPointer (auth : Auth) (room : Room) : HostM Response := do
  let newest ← db StoreError.display (newestFor auth)
  match newest with
  | some msg => do
      db StoreError.display (MessageStore.markRead auth.userId auth.roomId msg.id)
      pure (noNewMessages room)
  | none => pure (noNewMessages room)

def pageFor (auth : Auth) (after : Option MessageId) : StoreM MessagePage :=
  if auth.roomId = mail then MessageStore.listDirect auth.username after meshPage
  else MessageStore.listInRoom auth.roomId after meshPage

-- the header goes into the first part, so that no frame holds the header alone
def withHeader (room : Room) : List String → List String
  | [] => []
  | first :: rest => (s!"[{room.name} — new messages]\n" ++ first) :: rest

def moreParts : Option MessageId → List String
  | some cursor => [s!"(more — type N again or F {min (cursor + 1) maxRowid} to continue)"]
  | none => []

def newMessageParts (room : Room) (visible : List Message) (next : Option MessageId) :
    List String :=
  withHeader room (visible.map formatMessage) ++ moreParts next

def advancePointer (auth : Auth) (page : MessagePage) : HostM Unit :=
  match page.messages.getLast? with
  | some last => db StoreError.display (MessageStore.markRead auth.userId auth.roomId last.id)
  | none => pure ()

def showNew (auth : Auth) (room : Room) (after : Option MessageId) : HostM Response := do
  let page ← db StoreError.display (pageFor auth after)
  let blocked ← blocksOf auth
  advancePointer auth page
  if (visibleTo blocked page.messages).isEmpty then pure (noNewMessages room)
  else pure (.multiText (newMessageParts room (visibleTo blocked page.messages) page.nextCursor))

def handleReadNew (session : SessionId) : HostM Response :=
  reading session fun auth room => do
    let rawAfter ← db StoreError.display (MessageStore.getLastRead auth.userId auth.roomId)
    if rawAfter.isNone then do
      let hasState ← db StoreError.display (MessageStore.hasReadState auth.userId auth.roomId)
      if hasState then repairPointer auth room
      else showNew auth room none
    else showNew auth room rawAfter

/-! ## F and R -/

inductive ReadStep where
  | found (msg : Message)
  | ended (lastSkipped : Option MessageId)
  | skipped (at_ : MessageId)
deriving DecidableEq

def neighbour (roomId : RoomId) (username : Username) (cursor : Option MessageId) (forward : Bool) :
    StoreM (Option Message) :=
  if roomId = mail then
    if forward then MessageStore.nextDirect username cursor
    else MessageStore.prevDirect username cursor
  else if forward then MessageStore.nextInRoom roomId cursor
  else MessageStore.prevInRoom roomId cursor

def stepFrom (roomId : RoomId) (username : Username) (forward : Bool) (blocked : List String) :
    Nat → Option MessageId → Option MessageId → HostM ReadStep
  | 0, at_, lastSkipped =>
      pure (match at_ with
        | some id => .skipped id
        | none => .ended lastSkipped)
  | skips + 1, at_, lastSkipped => do
      let found ← db StoreError.display (neighbour roomId username at_ forward)
      match found with
      | none => pure (.ended lastSkipped)
      | some m =>
          if blocked.contains m.sender.text then
            stepFrom roomId username forward blocked skips (some m.id) (some m.id)
          else pure (.found m)

def neighbourStep (auth : Auth) (cursor : Option MessageId) (forward : Bool)
    (blocked : List String) : HostM ReadStep :=
  stepFrom auth.roomId auth.username forward blocked maxBlockedSkip cursor none

def ReadStep.isEnd : ReadStep → Bool
  | ended _ => true
  | _ => false

def hasNeighbour (auth : Auth) (msgId : MessageId) (forward : Bool) (blocked : List String) :
    HostM Bool := do
  let step ← neighbourStep auth (some msgId) forward blocked
  pure !step.isEnd

def SessionRecord.readingAt (r : SessionRecord) (id : MessageId) : SessionRecord :=
  { r with currentMessageId := some id, workflow := .reading }

def stoppedInBlockedRun (session : SessionId) (at_ : MessageId) (key : String) :
    HostM Response := do
  onSession session fun r => r.readingAt at_
  pure (.prompt ("Skipped a long run of blocked messages.\n" ++
    s!"{key} - Keep going  H - Help  X - Exit") false)

def countFor (auth : Auth) : StoreM Nat :=
  if auth.roomId = mail then MessageStore.countDirect auth.username
  else MessageStore.countInRoom auth.roomId

def readingIntro (session : SessionId) (auth : Auth) (room : Room) : HostM Response := do
  let count ← db StoreError.display (countFor auth)
  setWorkflow session .reading
  pure (.prompt (s!"[{room.name} — Reading]\n{count} message(s)\n" ++
    "F - Forward  R - Backward  H - Help  X - Exit") false)

def markReadQuietly (auth : Auth) (id : MessageId) : HostM Unit := do
  let _ ← tryDb (MessageStore.markRead auth.userId auth.roomId id)
  pure ()

def showMessage (session : SessionId) (auth : Auth) (msg : Message) (blocked : List String) :
    HostM Response := do
  markReadQuietly auth msg.id
  onSession session fun r => r.readingAt msg.id
  let hasPrev ← hasNeighbour auth msg.id false blocked
  let hasNext ← hasNeighbour auth msg.id true blocked
  pure (.prompt (buildMessageWithNav msg hasPrev hasNext) false)

def markSkipped (auth : Auth) : Option MessageId → HostM Unit
  | some last => markReadQuietly auth last
  | none => pure ()

def readForwardFrom (session : SessionId) (auth : Auth) (room : Room) (cursor : Option MessageId) :
    HostM Response := do
  let blocked ← blocksOf auth
  let step ← neighbourStep auth cursor true blocked
  match step with
  | .found msg => showMessage session auth msg blocked
  | .skipped at_ => stoppedInBlockedRun session at_ "F"
  | .ended lastSkipped => do
      markSkipped auth lastSkipped
      setWorkflow session .reading
      pure (.prompt (s!"No more messages in {room.name}.\n" ++
        "R - Backward  H - Help  X - Exit") false)

def isReading (r : Option SessionRecord) : Bool := r.any fun r => r.workflow = .reading

/-- `F <id>` starts at that message, which is after the id before it. -/
def startingAt (id : Int) : MessageId := max (id - 1) minRowid

def handleReadForward (session : SessionId) (after : Option Int) : HostM Response :=
  reading session fun auth room => do
    let r ← lookUp session
    let cursor := (after.map startingAt).or (r.bind (·.currentMessageId))
    if cursor.isNone && !isReading r then readingIntro session auth room
    else readForwardFrom session auth room cursor

def readReverseFrom (session : SessionId) (auth : Auth) (room : Room) (cursor : Option MessageId) :
    HostM Response := do
  let blocked ← blocksOf auth
  let step ← neighbourStep auth cursor false blocked
  match step with
  | .found msg => showMessage session auth msg blocked
  | .skipped at_ => stoppedInBlockedRun session at_ "R"
  | .ended _ =>
      pure (.prompt (s!"No previous messages in {room.name}.\n" ++
        "F - Forward  H - Help  X - Exit") false)

def handleReadReverse (session : SessionId) : HostM Response :=
  reading session fun auth room => do
    let r ← lookUp session
    let cursor := r.bind (·.currentMessageId)
    if cursor.isNone && !isReading r then readingIntro session auth room
    else readReverseFrom session auth room cursor

/-! ## S and .FF -/

def scanLines (room : Room) (visible : List Message) (next : Option MessageId) : List String :=
  s!"[{room.name} — scan]" :: visible.map scanLine ++
    (if next.isSome then ["(more — type F <id> to read from a message)"] else [])

def handleScan (session : SessionId) : HostM Response :=
  reading session fun auth room => do
    let page ← db StoreError.display (MessageStore.listInRoom auth.roomId none (meshPage * 2))
    let blocked ← blocksOf auth
    let visible := visibleTo blocked page.messages
    if visible.isEmpty then pure (.text s!"No messages in {room.name}.")
    else pure (.text ("\n".intercalate (scanLines room visible page.nextCursor)))

def handleFastForward (session : SessionId) : HostM Response :=
  withAuth (sessionAuthOrGuest session) fun auth =>
    withGuestRule auth guestsRead do
      let recent ← db StoreError.display (MessageStore.listRecentInRoom auth.roomId 1)
      match recent.head? with
      | some latest => do
          db StoreError.display (MessageStore.markRead auth.userId auth.roomId latest.id)
          pure (.text "Skipped to latest message.")
      | none => pure (.text "No messages in this room.")

end SupplyDrop.Host
