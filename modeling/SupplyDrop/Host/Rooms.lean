import Mathlib
import SupplyDrop.Host.Reading

namespace SupplyDrop.Host
open Library Store

def roomsFor (auth : Auth) : HostM (List Room) := do
  let all ← db StoreError.display (RoomStore.listReadable auth.level)
  let guestRoom ← peek (·.guestRoomId)
  pure (if auth.level < .user then all.filter fun r => some r.id = guestRoom else all)

def unreadIn (auth : Auth) (roomId : RoomId) : HostM Nat :=
  db StoreError.display
    (if roomId = mail then MessageStore.unreadDirectCount auth.username auth.userId roomId
    else MessageStore.unreadCount auth.userId roomId)

def SessionRecord.moveTo (r : SessionRecord) (roomId : RoomId) : SessionRecord :=
  if r.currentRoom ≠ roomId then
    { r with currentMessageId := none, workflow := .none, currentRoom := roomId }
  else r

def setCurrentRoom (session : SessionId) (roomId : RoomId) : HostM Unit :=
  onSession session fun r => r.moveTo roomId

/-! ## K -/

def lineBudget : Nat := 70

def pageOf : Bool → Nat → List String → List String
  | _, _, [] => []
  | isFirst, used, line :: rest =>
      let cost := line.utf8ByteSize + 1
      if !isFirst && lineBudget < used + cost then [] else line :: pageOf false (used + cost) rest

def paginateRoomLines (remaining : List String) (start : Nat) : List String × Option Nat :=
  let page := pageOf true 0 remaining
  (page, if page.length < remaining.length then some (start + page.length) else none)

def roomLine (auth : Auth) (room : Room) (unread : Nat) : String :=
  let marker := if 0 < unread then "*" else " "
  let count := if 0 < unread then s!" ({unread} new)" else ""
  let here := if room.id = auth.roomId then " [here]" else ""
  s!"{room.id}. {marker} {room.name}{count}{here}"

def roomListing (page : List String) (more : Bool) : Response :=
  let trailer := if more then "\n(more — press K again for the next page)" else ""
  .prompt ("Rooms:\n" ++ "\n".intercalate page ++ trailer ++ "\nEnter # to join, X to cancel") false

def handleListRoomsFrom (session : SessionId) (start : Nat) : HostM Response :=
  withAuth (sessionAuthOrGuest session) fun auth => do
    let rooms ← roomsFor auth
    let numbered ← rooms.mapM fun room => do
      let unread ← unreadIn auth room.id
      pure (roomLine auth room unread)
    if numbered.isEmpty then pure (.text "No accessible rooms.")
    else do
      -- the list may have shrunk since the page before
      let start := if start < numbered.length then start else 0
      let (page, next) := paginateRoomLines (numbered.drop start) start
      setWorkflow session (.rooms (rooms.map (·.id)) next)
      pure (roomListing page next.isSome)

def handleListRooms (session : SessionId) : HostM Response := handleListRoomsFrom session 0

/-! ## G -/

/-- `none` when there was nothing to show in the room after all. -/
def readNewUnlessEmpty (session : SessionId) (room : Room) : HostM (Option Response) := do
  let response ← handleReadNew session
  pure (if response = noNewMessages room then none else some response)

def noUnread : Response := .text "No unread messages in any room."

def tryRooms (session : SessionId) (auth : Auth) : List Room → Bool → HostM Response
  | [], moved => do
      onlyIf moved (setCurrentRoom session auth.roomId)
      pure noUnread
  | room :: rest, moved =>
      if room.id = auth.roomId then tryRooms session auth rest moved
      else do
        let unread ← unreadIn auth room.id
        if 0 < unread then do
          setCurrentRoom session room.id
          let response ← readNewUnlessEmpty session room
          match response with
          | some response => pure response
          | none => tryRooms session auth rest true
        else tryRooms session auth rest moved

/-- The rooms in order from the one after the current room, wrapping around. -/
def startingAfter (rooms : List Room) (current : RoomId) : List Room :=
  let start := ((rooms.findIdx? fun r => r.id = current).map (· + 1)).getD 0
  rooms.drop start ++ rooms.take start

def huntUnread (session : SessionId) (auth : Auth) (rooms : List Room) : HostM Response :=
  tryRooms session auth (startingAfter rooms auth.roomId) false

def handleGoNextUnread (session : SessionId) : HostM Response :=
  withAuth (sessionAuthOrGuest session) fun auth => do
    let rooms ← roomsFor auth
    match rooms.find? fun r => r.id = auth.roomId with
    | none => huntUnread session auth rooms
    | some room => do
        let unread ← unreadIn auth auth.roomId
        if 0 < unread then do
          let response ← readNewUnlessEmpty session room
          match response with
          | some response => pure response
          | none => huntUnread session auth rooms
        else huntUnread session auth rooms

/-! ## C and M -/

def enterRoom (session : SessionId) (room : Room) (auth : Auth) : HostM Response :=
  if auth.level < room.minPermissionLevel then
    pure (.error s!"You don't have permission to enter '{room.name}'.")
  else do
    let guestRoom ← peek (·.guestRoomId)
    if auth.level < .user ∧ some room.id ≠ guestRoom then
      pure (.text "You must be verified to access that room.")
    else do
      setCurrentRoom session room.id
      let unread ← unreadIn auth room.id
      pure (.text (if 0 < unread then s!"Now in: {room.name} ({unread} new). Type N to read."
        else s!"Now in: {room.name} (no new messages)."))

/-- A bare `C`, which on a radio repeats the outcome of the last draft. -/
def repeatOutcome (session : SessionId) : HostM Response := do
  let r ← lookUp session
  match (r.filter onRadio).bind (·.lastPostConfirmation) with
  | some outcome => pure (.text outcome)
  | none => pure (.text "Usage: C <room name or number>")

def findRoom (target : String) : StoreM (Option Room) :=
  match Text.parseI64 target with
  | some id => RoomStore.getById id
  | none => RoomStore.getByName (Text.trim target)

def handleChangeRoom (session : SessionId) (target : String) : HostM Response :=
  if (Text.trim target).isEmpty then repeatOutcome session
  else withAuth (sessionAuthOrGuest session) fun auth => do
    let room ← db StoreError.display (findRoom target)
    match room with
    | none => pure (.error s!"Room '{target}' not found.")
    | some room => enterRoom session room auth

def handleChangeToRoom (session : SessionId) (roomId : RoomId) : HostM Response :=
  withAuth (sessionAuthOrGuest session) fun auth => do
    let room ← db StoreError.display (RoomStore.getById roomId)
    match room with
    | none => pure (.error s!"Room '{roomId}' not found.")
    | some room => enterRoom session room auth

end SupplyDrop.Host
