import Mathlib
import SupplyDrop.Store.Database

namespace SupplyDrop.Store
open Library

-- `Username::new` refuses the reserved names on the way back from storage too
def mapUserRow (id : UserId) (row : UserRow) : Except StoreError User :=
  match Username.new row.username.text with
  | .ok username => .ok { row with id := id, username := username }
  | .error e => .error (.decode s!"invalid stored username: {e.display}")

def mapUserRows (rows : List (UserId × UserRow)) : Except StoreError (List User) :=
  rows.mapM fun r => mapUserRow r.1 r.2

namespace UserStore

def decoded {α : Type} (r : Except StoreError α) : StoreM α :=
  match r with
  | .ok a => pure a
  | .error e => Program.fail e

def getById (id : UserId) : StoreM (Option User) := do
  let row ← query fun db => db.users.get? id
  match row with
  | none => pure none
  | some row => do
      let user ← decoded (mapUserRow id row)
      pure (some user)

def getByUsername (username : Username) : StoreM (Option User) := do
  let found ← query fun db => db.users.rows.find? fun r => r.2.username = username
  match found with
  | none => pure none
  | some r => do
      let user ← decoded (mapUserRow r.1 r.2)
      pure (some user)

def second : Int := 1000000000

def fractionDigits : Nat → Nat → List Nat
  | 0, _ => []
  | n + 1, frac => if frac = 0 then [] else
      (frac / 10 ^ n + 48) :: fractionDigits n (frac % 10 ^ n)

/-- The order of RFC 3339 texts: by the second, then by the bytes that follow it, where `.` and the
digits of a fraction sort before the closing `Z`. -/
def createdKey (t : Timestamp) : Int × List Nat :=
  let frac := (t % second).toNat
  (t / second, if frac = 0 then [90] else 46 :: (fractionDigits 9 frac ++ [90]))

def createdBefore (a b : UserId × UserRow) : Bool :=
  let (secA, fracA) := createdKey a.2.createdAt
  let (secB, fracB) := createdKey b.2.createdAt
  secA < secB || (secA = secB && fracA ≤ fracB)

def page (rows : List (UserId × UserRow)) (limit offset : Nat) : List (UserId × UserRow) :=
  ((rows.mergeSort createdBefore).drop offset).take limit

def list (filterStatus : Option UserStatus) (limit offset : Nat) : StoreM (List User) := do
  let rows ← query fun db => page
    (match filterStatus with
      | some status => db.users.rows.filter fun r => r.2.status = status
      | none => db.users.rows) limit offset
  decoded (mapUserRows rows)

def create (username : Username) (displayName : Option String)
    (permissionLevel : PermissionLevel) (createdAt : Timestamp) : StoreM UserId :=
  insertRow (·.users) (fun db users => { db with users })
    (fun db => if db.users.rows.any fun r => r.2.username = username then
      some (.conflict s!"username '{username.text}' is already taken") else none)
    { username, displayName, status := .active, permissionLevel, createdAt, lastLoginAt := none,
      suspendedUntil := none }

/-- The fields a call of `update` sets, `none` leaving a column as it is. -/
structure Changes where
  displayName : Option (Option String)
  status : Option UserStatus
  permissionLevel : Option PermissionLevel
  lastLoginAt : Option Timestamp
deriving DecidableEq

-- `update` reads the row through one pool and writes it back through the other, in two statements
def selectRow (id : UserId) : StoreM UserRow := do
  let row ← query fun db => db.users.get? id
  match row with
  | none => Program.fail .notFound
  | some current => pure current

/-- What the `UPDATE` makes of a row, every column taken from the call or from the row it read. -/
def Changes.onto (changes : Changes) (current row : UserRow) : UserRow :=
  { row with
    displayName := changes.displayName.getD current.displayName
    status := changes.status.getD current.status
    permissionLevel := changes.permissionLevel.getD current.permissionLevel
    lastLoginAt := changes.lastLoginAt.or current.lastLoginAt }

def writeRow (id : UserId) (changes : Changes) (current : UserRow) : StoreM Unit :=
  execute fun db => { db with users := db.users.update id (changes.onto current) }

def update (id : UserId) (displayName : Option (Option String)) (status : Option UserStatus)
    (permissionLevel : Option PermissionLevel) (lastLoginAt : Option Timestamp) : StoreM Unit := do
  let current ← selectRow id
  writeRow id { displayName, status, permissionLevel, lastLoginAt } current

def whereId (id : UserId) (f : UserRow → UserRow) : StoreM Unit := do
  let found ← Program.gets fun s => (s.db.users.get? id).isSome
  execute fun db => { db with users := db.users.update id f }
  if found then pure () else Program.fail .notFound

def suspend (id : UserId) (until_ : Timestamp) : StoreM Unit :=
  whereId id fun r => { r with status := .banned, suspendedUntil := some until_ }

def clearSuspension (id : UserId) : StoreM Unit :=
  whereId id fun r => { r with suspendedUntil := none }

-- SQLite keeps a Julian day as whole milliseconds
def julianMillis (t : Timestamp) : Int := (t + 500000) / 1000000

def expired (now : Timestamp) (r : UserRow) : Bool :=
  r.status = .banned && r.suspendedUntil.any fun t => julianMillis t ≤ julianMillis now

def reactivate (now : Timestamp) (r : UserRow) : UserRow :=
  if expired now r then { r with status := .active, suspendedUntil := none } else r

def endExpiredSuspension (id : UserId) (now : Timestamp) : StoreM Bool := do
  let hit ← Program.gets fun s => (s.db.users.get? id).any (expired now)
  execute fun db => { db with users := db.users.update id (reactivate now) }
  pure hit

-- the `DELETE` with the cascades of the foreign keys that reference the row
def deleteRow (id : UserId) (db : Database) : Database :=
  { db with
    users := db.users.erase id
    userCredentials := fun user => if user = id then none else db.userCredentials user
    userRoomState := fun user room => if user = id then none else db.userRoomState user room
    nodeCredentials := fun key => (db.nodeCredentials key).filter fun node => node.userId ≠ id }

def hardDelete (id : UserId) : StoreM Unit := do
  let found ← transaction do
    let row ← selectRow id
    let msgCount ← query fun db => db.messages.rows.countP fun r => r.2.sender = row.username
    if 0 < msgCount then
      Program.fail (.integrityViolation (s!"user '{row.username.text}' has {msgCount} messages; " ++
        "soft-delete (status=Deleted) instead"))
    else do
      let found ← Program.gets fun s => (s.db.users.get? id).isSome
      execute (deleteRow id)
      pure found
  if found then pure () else Program.fail .notFound

end UserStore
end SupplyDrop.Store
