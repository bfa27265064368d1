import Mathlib
import SupplyDrop.Store.Rooms

namespace SupplyDrop.Migrations
open Library Store

/-! ## The rooms before and after `0004_add_sysop_system_rooms` -/

def stamp : Timestamp := 946684800000000000

-- the rows of the second migration
def firstRooms : RowTable RoomRow where
  rows :=
    [(lobby, ⟨"Lobby", some "Public gathering place — say hello!", false, .unvalidated, none,
        some mail, stamp⟩),
      (mail, ⟨"Mail", some "Private messages — type E to compose, enter recipient when prompted.",
        false, .user, some lobby, some aides, stamp⟩),
      (aides, ⟨"Aides", some "Aide coordination room.", false, .aide, some mail, none, stamp⟩)]
  seq := 3
  sorted := by simp [lobby, mail, aides]
  bounded := by simp [lobby, mail, aides]

def sysop : RoomId := 4
def system : RoomId := 5

def sysopRow : RoomRow :=
  ⟨"Sysop", some "Sysop-only coordination and system management.", false, .sysop, some aides,
    some system, stamp⟩

def systemRow : RoomRow :=
  ⟨"System", some "System announcements — read-only for non-sysops.", true, .sysop, some sysop,
    none, stamp⟩

/-- A row that `INSERT OR IGNORE` passes over, its id or its name being taken. -/
def ignored (rooms : RowTable RoomRow) (id : RoomId) (row : RoomRow) : Bool :=
  (rooms.get? id).isSome || rooms.rows.any fun r => r.2.name = row.name

def insertOrIgnore (rooms : RowTable RoomRow) (id : RoomId) (row : RoomRow) : RowTable RoomRow :=
  if ignored rooms id row then rooms else rooms.place id row

def dangles (rooms : RowTable RoomRow) (neighbor : Option RoomId) : Bool :=
  neighbor.any fun id => (rooms.get? id).isNone

/-- The foreign keys of the two neighbour columns, which SQLite looks at when a statement ends:
`OR IGNORE` does not pass over them. -/
def enforceNeighbors (rooms : RowTable RoomRow) : Except StoreError (RowTable RoomRow) :=
  if rooms.rows.any fun r => dangles rooms r.2.prevNeighbor || dangles rooms r.2.nextNeighbor then
    .error (.db "FOREIGN KEY constraint failed")
  else .ok rooms

/-- Stitch Aides to Sysop when Aides has no next neighbour. -/
def stitch (rooms : RowTable RoomRow) : RowTable RoomRow :=
  rooms.update aides fun r =>
    if r.nextNeighbor.isNone then { r with nextNeighbor := some sysop } else r

def addSystemRooms (rooms : RowTable RoomRow) : Except StoreError (RowTable RoomRow) := do
  let seeded ← enforceNeighbors
    (insertOrIgnore (insertOrIgnore rooms sysop sysopRow) system systemRow)
  let stitched ← enforceNeighbors (stitch seeded)
  pure (stitched.atLeast 5)

example : (addSystemRooms firstRooms).toOption.map (·.rows) = some seedRooms.rows := by
  decide +kernel

/-! ## `verify_room_walk_order` -/

def cyclic : String := "room list contains a cycle"

/-- The ids visited from `current` along the next pointers. -/
def visitFrom (rooms : RowTable RoomRow) : Nat → List RoomId → RoomId → Except String (List RoomId)
  | 0, _, _ => .error cyclic
  | fuel + 1, visited, current =>
      if visited.contains current then .error cyclic
      else match (rooms.get? current).bind (·.nextNeighbor) with
        | none => .ok (current :: visited)
        | some next =>
            if rooms.rows.length < (current :: visited).length then .error cyclic
            else visitFrom rooms fuel (current :: visited) next

/-- The row no other row points to. -/
def headOf (rooms : RowTable RoomRow) : Option RoomId :=
  (rooms.rows.find? fun r => !rooms.rows.any fun r' => r'.2.nextNeighbor = some r.1).map (·.1)

def verifyReach (rooms : RowTable RoomRow) : Except String Unit :=
  match headOf rooms with
  | none => .ok ()
  | some head => do
      let visited ← visitFrom rooms (rooms.rows.length + 2) [] head
      if visited.length ≠ rooms.rows.length then
        .error (s!"room list is disconnected: {visited.length} rooms reachable from head, " ++
          s!"{rooms.rows.length} total")
      else .ok ()

def verifyRoomWalkOrder (rooms : RowTable RoomRow) : Except String Unit :=
  let heads := rooms.rows.countP fun r => r.2.prevNeighbor.isNone
  let tails := rooms.rows.countP fun r => r.2.nextNeighbor.isNone
  if 1 < heads then
    .error s!"room list has {heads} head nodes (prev_neighbor IS NULL); expected 0 or 1"
  else if 1 < tails then
    .error s!"room list has {tails} tail nodes (next_neighbor IS NULL); expected 0 or 1"
  else if heads ≠ tails then
    .error s!"room list has {heads} heads and {tails} tails; must be equal"
  else if rooms.rows.length = 0 then .ok ()
  else verifyReach rooms

end SupplyDrop.Migrations
