import Mathlib
import SupplyDrop.Store.Rooms

namespace SupplyDrop.Store
open Library

inductive DbOpenError where
  | connect (message : String)
  | roomOrder (message : String)
deriving DecidableEq

namespace Invariants

def ask {α : Type} (f : Database → α) : Program Storage DbOpenError α :=
  Program.mapError (fun e => .connect e.display) (query f)

def orRefuse (verdict : Except DbOpenError Unit) : Program Storage DbOpenError Unit :=
  match verdict with
  | .ok () => pure ()
  | .error e => Program.fail e

def headCount (rooms : RowTable RoomRow) : Nat :=
  rooms.rows.countP fun r => r.2.prevNeighbor.isNone

def tailCount (rooms : RowTable RoomRow) : Nat :=
  rooms.rows.countP fun r => r.2.nextNeighbor.isNone

def checkEnds (headCount tailCount : Nat) : Except DbOpenError Unit :=
  if 1 < headCount then .error (.roomOrder
    s!"room list has {headCount} head nodes (prev_neighbor IS NULL); expected 0 or 1")
  else if 1 < tailCount then .error (.roomOrder
    s!"room list has {tailCount} tail nodes (next_neighbor IS NULL); expected 0 or 1")
  else if headCount ≠ tailCount then .error (.roomOrder
    s!"room list has {headCount} heads and {tailCount} tails; must be equal")
  else .ok ()

/-- `SELECT id, next_neighbor FROM rooms`. -/
def nextRows (rooms : RowTable RoomRow) : List (RoomId × Option RoomId) :=
  rooms.rows.map fun r => (r.1, r.2.nextNeighbor)

def nextMap (rows : List (RoomId × Option RoomId)) (id : RoomId) : Option RoomId :=
  (rows.find? fun r => r.1 = id).bind (·.2)

/-- The head is the node that appears in no other node's `next_neighbor`. -/
def headId (rows : List (RoomId × Option RoomId)) : Option RoomId :=
  (rows.find? fun r => r.1 ∉ rows.filterMap (·.2)).map (·.1)

def cycle : DbOpenError := .roomOrder "room list contains a cycle"

/-- The loop over the room ids from `current` on, with the set of those visited. `guard` is how
often the guard on the number of steps lets it go on. -/
def walk (next : RoomId → Option RoomId) :
    Nat → List RoomId → RoomId → Except DbOpenError (List RoomId)
  | guard, visited, current =>
      if current ∈ visited then .error cycle
      else match next current with
        | none => .ok (current :: visited)
        | some id => match guard with
            | 0 => .error cycle
            | guard + 1 => walk next guard (current :: visited) id

def checkWalk (total : Nat) (rows : List (RoomId × Option RoomId)) : Except DbOpenError Unit :=
  match headId rows with
  | none => .ok ()
  | some head => do
      let visited ← walk (nextMap rows) total [] head
      if visited.length ≠ total then .error (.roomOrder
        (s!"room list is disconnected: {visited.length} rooms reachable from head, " ++
          s!"{total} total"))
      else .ok ()

def verifyRoomWalkOrder : Program Storage DbOpenError Unit := do
  let headCount ← ask fun db => headCount db.rooms
  let tailCount ← ask fun db => tailCount db.rooms
  orRefuse (checkEnds headCount tailCount)
  let total ← ask fun db => db.rooms.rows.length
  if total = 0 then pure ()
  else do
    let rows ← ask fun db => nextRows db.rooms
    orRefuse (checkWalk total rows)

end Invariants
end SupplyDrop.Store
