import Mathlib
import SupplyDrop.Store.Database

namespace SupplyDrop.Store
open Library

-- `Username::try_from` takes every username that was stored, so no row fails to decode
def mapMessageRow (id : MessageId) (row : MessageRow) : Message := { row with id := id }

def mapMessageRows (rows : List (MessageId × MessageRow)) : List Message :=
  rows.map fun r => mapMessageRow r.1 r.2

structure MessagePage where
  messages : List Message
  nextCursor : Option MessageId
deriving DecidableEq

def buildPage (rows : List Message) (limit : Nat) : MessagePage :=
  let hasMore := limit < rows.length
  let messages := (rows.take limit).mergeSort fun a b => a.id ≤ b.id
  { messages, nextCursor := if hasMore then messages.getLast?.map (·.id) else none }

def minRowid : Int := -2 ^ 63

namespace MessageStore

/-- The posts of a room, in ascending order of id. -/
def inRoom (db : Database) (room : RoomId) : List (MessageId × MessageRow) :=
  db.messages.rows.filter fun r => (room, r.1) ∈ db.roomMessages

def involves (username : Username) (row : MessageRow) : Bool :=
  (row.sender = username || row.recipient = some username) && row.recipient.isSome

/-- The direct messages from or to a user, in ascending order of id. -/
def direct (db : Database) (username : Username) : List (MessageId × MessageRow) :=
  db.messages.rows.filter fun r => involves username r.2

def getById (id : MessageId) : StoreM (Option Message) :=
  query fun db => (db.messages.get? id).map (mapMessageRow id)

def after (rows : List (MessageId × MessageRow)) (cursor : Option MessageId) :
    List (MessageId × MessageRow) :=
  rows.filter fun r => cursor.getD minRowid < r.1

def before (rows : List (MessageId × MessageRow)) (cursor : Option MessageId) :
    List (MessageId × MessageRow) :=
  rows.filter fun r => r.1 < cursor.getD maxRowid

def listInRoom (room : RoomId) (afterId : Option MessageId) (limit : Nat) : StoreM MessagePage := do
  let rows ← query fun db => (after (inRoom db room) afterId).take (limit + 1)
  pure (buildPage (mapMessageRows rows) limit)

def listDirect (username : Username) (afterId : Option MessageId) (limit : Nat) :
    StoreM MessagePage := do
  let rows ← query fun db => (after (direct db username) afterId).take (limit + 1)
  pure (buildPage (mapMessageRows rows) limit)

def insertMessage (row : MessageRow) : StoreM MessageId :=
  insertRow (·.messages) (fun db messages => { db with messages }) (fun _ => none) row

def foreignKeyFailed : StoreError := .db "FOREIGN KEY constraint failed"

def insertRoomMessage (room : RoomId) (id : MessageId) : StoreM Unit := do
  let rooms ← Program.gets fun s => s.db.rooms
  statement
  if (rooms.get? room).isNone then Program.fail foreignKeyFailed
  else Program.modify fun s =>
    { s with db := { s.db with roomMessages := insert (room, id) s.db.roomMessages } }

def postToRoom (room : RoomId) (sender : Username) (content : String) (timestamp : Timestamp) :
    StoreM MessageId :=
  transaction do
    let id ← insertMessage { sender, recipient := none, content, timestamp }
    insertRoomMessage room id
    pure id

def postDirect (sender recipient : Username) (content : String) (timestamp : Timestamp) :
    StoreM MessageId :=
  insertMessage { sender, recipient := some recipient, content, timestamp }

def isInRoom (id : MessageId) (room : RoomId) : StoreM Bool :=
  query fun db => (room, id) ∈ db.roomMessages

/-- The newest post older than `id` in the rooms `id` was posted to. -/
def earlierPost (db : Database) (id : MessageId) : Option MessageId :=
  ((db.roomMessages.filter fun p => (p.1, id) ∈ db.roomMessages ∧ p.2 < id).image (·.2)).max

-- `DELETE` with the actions of the foreign keys that reference the row
def deleteRow (id : MessageId) (db : Database) : Database :=
  { db with
    messages := db.messages.erase id
    roomMessages := db.roomMessages.filter fun p => p.2 ≠ id
    userRoomState := fun user room => (db.userRoomState user room).map fun pointer =>
      if pointer = some id then none else pointer }

-- rescues the read pointers that land on the message
def rescuePointers (id : MessageId) (db : Database) : Database :=
  { db with
    userRoomState := fun user room => (db.userRoomState user room).map fun pointer =>
      if pointer = some id then earlierPost db id else pointer }

def delete (id : MessageId) : StoreM Bool :=
  transaction do
    execute (rescuePointers id)
    let found ← Program.gets fun s => (s.db.messages.get? id).isSome
    execute (deleteRow id)
    pure found

/-- The pointer after the upsert of `mark_read`. -/
def advanced (state : Option (Option MessageId)) (id : MessageId) : MessageId :=
  match state with
  | none => id
  | some pointer => max id (pointer.getD 0)

def setPointer (user : UserId) (room : RoomId) (pointer : MessageId) (db : Database) : Database :=
  { db with
    userRoomState := fun u r =>
      if u = user ∧ r = room then some (some pointer) else db.userRoomState u r }

def markRead (user : UserId) (room : RoomId) (id : MessageId) : StoreM Unit := do
  statement
  let db ← Program.gets fun s => s.db
  let pointer := advanced (db.userRoomState user room) id
  if (db.userRoomState user room).isNone ∧
      ((db.users.get? user).isNone ∨ (db.rooms.get? room).isNone) ∨
      (db.messages.get? pointer).isNone then
    Program.fail foreignKeyFailed
  else Program.modify fun s => { s with db := setPointer user room pointer s.db }

/-- Without a row everything is unread; a row whose pointer is `NULL` counts as caught up. -/
def unread (state : Option (Option MessageId)) (id : MessageId) : Bool :=
  match state with
  | none => true
  | some none => false
  | some (some pointer) => pointer < id

def unreadInRoom (db : Database) (user : UserId) (room : RoomId) : List MessageId :=
  ((inRoom db room).filter fun r => unread (db.userRoomState user room) r.1).map (·.1)

def unreadDirect (db : Database) (username : Username) (user : UserId) (room : RoomId) :
    List MessageId :=
  ((direct db username).filter fun r => unread (db.userRoomState user room) r.1).map (·.1)

def unreadCount (user : UserId) (room : RoomId) : StoreM Nat :=
  query fun db => (unreadInRoom db user room).length

def unreadDirectCount (username : Username) (user : UserId) (room : RoomId) : StoreM Nat :=
  query fun db => (unreadDirect db username user room).length

def getLastRead (user : UserId) (room : RoomId) : StoreM (Option MessageId) :=
  query fun db => (db.userRoomState user room).join

def hasReadState (user : UserId) (room : RoomId) : StoreM Bool :=
  query fun db => (db.userRoomState user room).isSome

def listRecentInRoom (room : RoomId) (limit : Nat) : StoreM (List Message) :=
  query fun db => mapMessageRows ((inRoom db room).reverse.take limit)

def countInRoom (room : RoomId) : StoreM Nat :=
  query fun db => (db.roomMessages.filter fun p => p.1 = room).card

def countDirect (username : Username) : StoreM Nat :=
  query fun db => (direct db username).length

def firstRow (rows : List (MessageId × MessageRow)) : Option Message :=
  rows.head?.map fun r => mapMessageRow r.1 r.2

def nextInRoom (room : RoomId) (cursor : Option MessageId) : StoreM (Option Message) :=
  query fun db => firstRow (after (inRoom db room) cursor)

def prevInRoom (room : RoomId) (cursor : Option MessageId) : StoreM (Option Message) :=
  query fun db => firstRow (before (inRoom db room) cursor).reverse

def nextDirect (username : Username) (cursor : Option MessageId) : StoreM (Option Message) :=
  query fun db => firstRow (after (direct db username) cursor)

def prevDirect (username : Username) (cursor : Option MessageId) : StoreM (Option Message) :=
  query fun db => firstRow (before (direct db username) cursor).reverse

end MessageStore
end SupplyDrop.Store
