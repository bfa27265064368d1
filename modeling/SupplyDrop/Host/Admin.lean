import Mathlib
import SupplyDrop.Host.Auth

namespace SupplyDrop.Host
open Library Store

/-! ## Operations of the web admin -/

/-- `{username:?}`, which leaves the characters a username may have as they are. -/
def quoted (username : String) : String := "\"" ++ username ++ "\""

def userNotFound (username : String) : HostError := .notFound ("user " ++ quoted username)

/-- The account an operation names. -/
def adminUser (username : String) : HostM User :=
  match username? username with
  | none => Program.fail (userNotFound username)
  | some name => do
      let user ← db StoreError.display (UserStore.getByUsername name)
      match user with
      | none => Program.fail (userNotFound username)
      | some user => pure user

def statusOf : Nat → Option UserStatus
  | 0 => some .active
  | 1 => some .banned
  | 2 => some .deleted
  | _ => none

def levelOf : Nat → Option PermissionLevel
  | 0 => some .unvalidated
  | 10 => some .user
  | 50 => some .aide
  | 100 => some .sysop
  | _ => none

/-- A field of a request, absent or with a number that must be known. -/
def decodeField {α : Type} (what : String) (decode : Nat → Option α) (field : Option Nat) :
    Except HostError (Option α) :=
  match field with
  | none => .ok none
  | some n =>
      match decode n with
      | some a => .ok (some a)
      | none => .error (.preconditionFailed s!"unknown {what} {n}")

def orFail {α : Type} (r : Except HostError α) : HostM α :=
  match r with
  | .ok a => pure a
  | .error e => Program.fail e

def statusName : UserStatus → String
  | .active => "active"
  | .banned => "banned"
  | .deleted => "deleted"

/-- The number of Sysops among the first 500 active accounts. -/
def countSysops : HostM Nat := do
  let active ← db StoreError.display (UserStore.list (some .active) 500 0)
  pure (active.filter fun u => u.permissionLevel = .sysop).length

def lowersSysop (user : User) (level : Option PermissionLevel) : Bool :=
  user.permissionLevel = .sysop && level.any (· < .sysop)

def guardLastSysop (user : User) (level : Option PermissionLevel) (refusal : HostError) :
    HostM Unit :=
  onlyIf (lowersSysop user level) do
    let sysops ← countSysops
    if sysops ≤ 1 then Program.fail refusal else pure ()

def lastSysop : HostError :=
  .preconditionFailed "cannot demote the last active Sysop; promote another Sysop first"

def guardActive (user : User) (status : Option UserStatus) (level : Option PermissionLevel) :
    HostM Unit :=
  let effective := status.getD user.status
  if level.isSome ∧ effective ≠ .active then
    Program.fail (.preconditionFailed (s!"cannot change permission level of a " ++
      s!"{statusName effective} account; re-activate it first"))
  else pure ()

-- the sessions are found by the name as it was given, not by the account's own
def named (username : String) (r : SessionRecord) : Bool :=
  r.username.any fun name => name.text = username

def endSessionsNamed (username reason : String) : HostM Unit :=
  poke fun m => m.endSessions (fun _ r => named username r) reason

def Memory.setLevelsNamed (m : Memory) (username : String) (level : PermissionLevel) : Memory :=
  { m with sessions := m.sessions.map fun _ r => if named username r then { r with level } else r }

def reflectStatus (username : String) : Option UserStatus → HostM Unit
  | some .banned => endSessionsNamed username "user banned"
  | some .deleted => endSessionsNamed username "user deleted"
  | _ => pure ()

def reflectLevel (username : String) : Option PermissionLevel → HostM Unit
  | some level => poke fun m => m.setLevelsNamed username level
  | none => pure ()

def applyUpdate (user : User) (status : Option UserStatus) (level : Option PermissionLevel) :
    HostM Unit := do
  db StoreError.display (UserStore.update user.id none status level none)
  onlyIf status.isSome (db StoreError.display (UserStore.clearSuspension user.id))

def adminUpdateUser (username : String) (status permissionLevel : Option Nat) : HostM Unit := do
  let user ← adminUser username
  let newStatus ← orFail (decodeField "status" statusOf status)
  let newLevel ← orFail (decodeField "permission_level" levelOf permissionLevel)
  guardActive user newStatus newLevel
  guardLastSysop user newLevel lastSysop
  applyUpdate user newStatus newLevel
  reflectStatus username newStatus
  reflectLevel username newLevel

def adminSuspendUser (username : String) (days : Nat) : HostM Unit :=
  if ¬ (1 ≤ days ∧ days ≤ 5) then
    Program.fail (.preconditionFailed "suspension length must be 1-5 days")
  else do
    let user ← adminUser username
    let now ← now
    db StoreError.display
      (UserStore.suspend user.id (now + days * Calendar.secondsPerDay * Calendar.nanosPerSecond))
    endSessionsNamed username "user suspended"

def adminCreateUser (username password : String) (permissionLevel : Nat) : HostM Unit := do
  let name ← orFail ((validateNewUsername username).mapError .preconditionFailed)
  let level ← orFail (decodeField "permission_level" levelOf (some permissionLevel))
  let now ← now
  let created ← tryDb (UserStore.create name none (level.getD .unvalidated) now)
  match created with
  | .error (.conflict _) =>
      Program.fail (.preconditionFailed s!"username {quoted username} is already taken")
  | .error e => Program.fail (.storage (failed "create user" e))
  | .ok userId => db (failed "set password") (CredentialStore.setPassword userId password now)

def adminSetPassword (username password : String) : HostM Unit := do
  let user ← adminUser username
  let now ← now
  db (failed "set password") (CredentialStore.setPassword user.id password now)

/-- The level an account may use the web admin with, `none` when it may not log in. -/
def adminAccountLevel (username : String) : HostM (Option PermissionLevel) :=
  match username? username with
  | none => pure none
  | some name => do
      let user ← db StoreError.display (UserStore.getByUsername name)
      match user with
      | none => pure none
      | some user =>
          match user.status with
          | .active => pure (some user.permissionLevel)
          | .banned => do
              let check ← resolveSuspension user
              pure (match check with
                | .allowed user => some user.permissionLevel
                | _ => none)
          | .deleted => pure none

def aideDenied : HostError := .permissionDenied .aide

def adminLevelOf (user : User) : HostM PermissionLevel :=
  if user.permissionLevel < .aide then Program.fail aideDenied else pure user.permissionLevel

def adminVerifyCredentials (username password : String) : HostM PermissionLevel := do
  let user ← adminUser username
  let now ← now
  let ok ← db StoreError.display (CredentialStore.verifyPassword user.id password now)
  if !ok then Program.fail aideDenied
  else match user.status with
    | .active => adminLevelOf user
    | .banned => do
        let check ← resolveSuspension user
        match check with
        | .allowed user => adminLevelOf user
        | _ => Program.fail aideDenied
    | .deleted => Program.fail aideDenied

/-! ## Rooms, messages, sessions and policy of the web admin -/

structure AdminRoomSummary where
  id : RoomId
  name : String
  description : Option String
  readOnly : Bool
  minPermissionLevel : PermissionLevel
  messageCount : Nat
  createdAt : Timestamp
  deletable : Bool
  locked : Bool
deriving DecidableEq

def isLocked (id : RoomId) : Bool := 2 ≤ id && id ≤ 4

def roomSummary (room : Room) (messageCount : Nat) : AdminRoomSummary where
  id := room.id
  name := room.name
  description := room.description
  readOnly := room.readOnly
  minPermissionLevel := room.minPermissionLevel
  messageCount := messageCount
  createdAt := room.createdAt
  deletable := 5 < room.id
  locked := isLocked room.id

def adminListRooms : StoreM (List AdminRoomSummary) :=
  query fun db => db.rooms.rows.map fun r =>
    roomSummary (mapRoomRow r.1 r.2) (db.roomMessages.filter fun p => p.1 = r.1).card

def adminCreateRoom (name : String) (description : Option String) : HostM AdminRoomSummary := do
  let now ← now
  let _ ← db StoreError.display (RoomStore.create name description false .user now)
  let rooms ← db StoreError.display adminListRooms
  match rooms.find? fun r => r.name = name with
  | some room => pure room
  | none => Program.fail (.internal "created room not found")

def adminUpdateRoom (roomId : RoomId) (description : Option (Option String))
    (readOnly : Option Bool) (minPermissionLevel : Option Nat) : HostM AdminRoomSummary := do
  let newLevel ← orFail (decodeField "min_permission_level" levelOf minPermissionLevel)
  db StoreError.display (RoomStore.update roomId description readOnly newLevel)
  let room ← db StoreError.display (RoomStore.getById roomId)
  match room with
  | none => Program.fail (.notFound s!"room {roomId}")
  | some room => do
      let count ← db StoreError.display (MessageStore.countInRoom roomId)
      pure (roomSummary room count)

def adminDeleteRoom (roomId : RoomId) : HostM Bool :=
  if roomId ≤ 5 then Program.fail (.preconditionFailed "system rooms cannot be deleted")
  else do
    let deleted ← tryDb (RoomStore.delete roomId)
    match deleted with
    | .ok () => pure true
    | .error .notFound => pure false
    | .error e => Program.fail (.storage e.display)

def adminDeleteMessage (messageId : MessageId) : HostM Bool :=
  db StoreError.display (MessageStore.delete messageId)

def adminKillSession (session : SessionId) : HostM Bool := do
  let found ← lookUp session
  onlyIf found.isSome do
    poke fun m => { m with sessions := m.sessions.erase session }
    emit (.sessionEnded session "admin_kill")
  pure found.isSome

end SupplyDrop.Host
