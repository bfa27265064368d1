import Mathlib
import SupplyDrop.Library.Chain
import SupplyDrop.Store.Database

namespace SupplyDrop.Store
open Library

def mapRoomRow (id : RoomId) (row : RoomRow) : Room := { row with id := id }

-- the rows of the second and fourth migrations, stamped 2000-01-01T00:00:00Z
def seedRooms : RowTable RoomRow :=
  let stamp : Timestamp := 946684800000000000
  { rows :=
      [(lobby, ⟨"Lobby", some "Public gathering place — say hello!", false, .unvalidated, none,
          some mail, stamp⟩),
        (mail, ⟨"Mail", some "Private messages — type E to compose, enter recipient when prompted.",
          false, .user, some lobby, some aides, stamp⟩),
        (aides, ⟨"Aides", some "Aide coordination room.", false, .aide, some mail, some 4, stamp⟩),
        (4, ⟨"Sysop", some "Sysop-only coordination and system management.", false, .sysop,
          some aides, some 5, stamp⟩),
        (5, ⟨"System", some "System announcements — read-only for non-sysops.", true, .sysop,
          some 4, none, stamp⟩)]
    seq := 5
    sorted := by simp [lobby, mail, aides]
    bounded := by simp [lobby, mail, aides] }

def Storage.fresh : Storage where
  db := .empty seedRooms
  now := 0
  faults := []
  argon2 := .transparent
  draws := 0

namespace RoomStore

def getById (id : RoomId) : StoreM (Option Room) :=
  query fun db => (db.rooms.get? id).map (mapRoomRow id)

def getByName (name : String) : StoreM (Option Room) :=
  query fun db => (db.rooms.rows.find? fun r => Text.eqIgnoreAsciiCase r.2.name name).map
    fun r => mapRoomRow r.1 r.2

/-- The walk of `list_in_order` over the rooms not visited yet. A pointer to a room that is not
among them is the `expect` that panics. -/
def walkFrom : Nat → List Room → RoomId → Except StoreError (List Room × List Room)
  | 0, _, _ => .error (.db "id must be present")
  | fuel + 1, map, currentId =>
      match map.find? fun r => r.id = currentId with
      | none => .error (.db "id must be present")
      | some room =>
          let rest := map.filter fun r => r.id ≠ currentId
          match room.nextNeighbor with
          | none => .ok ([room], rest)
          | some next => do
              let (ordered, left) ← walkFrom fuel rest next
              pure (room :: ordered, left)

def inOrder (rooms : List Room) : Except StoreError (List Room) :=
  match rooms.find? fun r => r.prevNeighbor.isNone with
  | none => .ok rooms
  | some head => do
      let (ordered, left) ← walkFrom rooms.length rooms head.id
      pure (ordered ++ left)

def listInOrder : StoreM (List Room) := do
  let rooms ← query fun db => db.rooms.rows.map fun r => mapRoomRow r.1 r.2
  match inOrder rooms with
  | .ok ordered => pure ordered
  | .error e => Program.fail e

def listReadable (minPermission : PermissionLevel) : StoreM (List Room) := do
  let rooms ← listInOrder
  pure (rooms.filter fun r => r.minPermissionLevel ≤ minPermission)

-- every neighbour written by these comes from the table in the same transaction, so the foreign
-- keys of the two columns hold
def setNext (id : RoomId) (next : Option RoomId) : StoreM Unit :=
  execute fun db => { db with rooms := db.rooms.update id fun r => { r with nextNeighbor := next } }

def setPrev (id : RoomId) (prev : Option RoomId) : StoreM Unit :=
  execute fun db => { db with rooms := db.rooms.update id fun r => { r with prevNeighbor := prev } }

def setNeighbors (id : RoomId) (prev next : Option RoomId) : StoreM Unit :=
  execute fun db => { db with rooms := db.rooms.update id fun r =>
    { r with prevNeighbor := prev, nextNeighbor := next } }

def setNextOf (room next : Option RoomId) : StoreM Unit :=
  match room with
  | none => pure ()
  | some id => setNext id next

def setPrevOf (room prev : Option RoomId) : StoreM Unit :=
  match room with
  | none => pure ()
  | some id => setPrev id prev

def create (name : String) (description : Option String) (readOnly : Bool)
    (minPermissionLevel : PermissionLevel) (createdAt : Timestamp) : StoreM RoomId :=
  transaction do
    let tailId ← query fun db =>
      (db.rooms.rows.find? fun r => r.2.nextNeighbor.isNone).map (·.1)
    let newId ← insertRow (·.rooms) (fun db rooms => { db with rooms })
      (fun db => if db.rooms.rows.any fun r => r.2.name = name then
        some (.conflict s!"room name '{name}' is already taken") else none)
      { name, description, readOnly, minPermissionLevel, prevNeighbor := tailId,
        nextNeighbor := none, createdAt }
    setNextOf tailId (some newId)
    pure newId

def update (id : RoomId) (description : Option (Option String)) (readOnly : Option Bool)
    (minPermissionLevel : Option PermissionLevel) : StoreM Unit := do
  let row ← query fun db => db.rooms.get? id
  match row with
  | none => Program.fail .notFound
  | some current => execute fun db => { db with rooms := db.rooms.update id fun r =>
      { r with
        description := description.getD current.description
        readOnly := readOnly.getD current.readOnly
        minPermissionLevel := minPermissionLevel.getD current.minPermissionLevel } }

def reorder (roomId : RoomId) (afterId : Option RoomId) : StoreM Unit :=
  if afterId = some roomId then pure ()
  else transaction do
    let row ← query fun db => db.rooms.get? roomId
    match row with
    | none => Program.fail .notFound
    | some current => do
        setNextOf current.prevNeighbor current.nextNeighbor
        setPrevOf current.nextNeighbor current.prevNeighbor
        match afterId with
        | none => do
            let newHead ← query fun db => (db.rooms.rows.find? fun r =>
              r.2.prevNeighbor.isNone && r.1 ≠ roomId).map (·.1)
            setPrevOf newHead (some roomId)
            setNeighbors roomId none newHead
        | some targetId => do
            let targetRow ← query fun db => (db.rooms.get? targetId).map (·.nextNeighbor)
            match targetRow with
            | none => Program.fail .notFound
            | some targetNext => do
                setPrevOf targetNext (some roomId)
                setNext targetId (some roomId)
                setNeighbors roomId (some targetId) targetNext

def unlink (id : RoomId) (neighbor : Option RoomId) : Option RoomId :=
  if neighbor = some id then none else neighbor

-- `DELETE` with the actions of the foreign keys that reference the row
def deleteRow (id : RoomId) : StoreM Unit :=
  execute fun db => { db with
    rooms := (db.rooms.erase id).map fun _ r =>
      { r with
        prevNeighbor := unlink id r.prevNeighbor
        nextNeighbor := unlink id r.nextNeighbor }
    roomMessages := db.roomMessages.filter fun p => p.1 ≠ id
    userRoomState := fun user room => if room = id then none else db.userRoomState user room }

def delete (id : RoomId) : StoreM Unit :=
  transaction do
    let row ← query fun db => db.rooms.get? id
    match row with
    | none => Program.fail .notFound
    | some current => do
        setNextOf current.prevNeighbor current.nextNeighbor
        setPrevOf current.nextNeighbor current.prevNeighbor
        deleteRow id

end RoomStore
end SupplyDrop.Store
