import Mathlib
import SupplyDrop.Host.Types
import SupplyDrop.Store.Users
import SupplyDrop.Store.Audit

namespace SupplyDrop.Host
open Library Store

/-- What the host keeps in memory. A session id is never handed out twice. -/
structure Memory where
  sessions : RowTable SessionRecord
  accessPolicy : AccessPolicy
  guestRoomId : Option RoomId
  loginFailures : List (String × Nat × Instant)
  clock : Instant
  config : Option ConfigFile
  events : List DomainEvent

structure BbsHost extends Memory where
  store : Storage

def BbsHost.fresh (store : Storage) : BbsHost where
  sessions := .empty 0
  accessPolicy := ⟨true, none⟩
  guestRoomId := none
  loginFailures := []
  clock := 0
  config := none
  events := []
  store := store

abbrev HostM := Program BbsHost HostError

/-! ## What the host does to its memory and its store -/

def peek {α : Type} (f : Memory → α) : HostM α := Program.gets fun h => f h.toMemory

def poke (f : Memory → Memory) : HostM Unit :=
  Program.modify fun h => { h with toMemory := f h.toMemory }

def db {α : Type} (describe : StoreError → String) (m : StoreM α) : HostM α :=
  Program.mapError (fun e => .storage (describe e))
    (Program.zoom (·.store) (fun h store => { h with store }) m)

/-- A store operation whose failure the caller looks at or lets pass. -/
def tryDb {α : Type} (m : StoreM α) : HostM (Except StoreError α) :=
  Program.attempt (Program.zoom (·.store) (fun h store => { h with store }) m)

def now : HostM Timestamp := Program.gets fun h => h.store.now

def onlyIf (condition : Bool) (m : HostM Unit) : HostM Unit := if condition then m else pure ()

def failed (what : String) (e : StoreError) : String := what ++ ": " ++ e.display

def audit (actor action : String) (target detail : Option String) : HostM Unit := do
  let _ ← tryDb (AuditStore.write actor action target detail)
  pure ()

def Memory.update (m : Memory) (session : SessionId) (f : SessionRecord → SessionRecord) : Memory :=
  { m with sessions := m.sessions.update session f }

def Memory.emit (m : Memory) (event : DomainEvent) : Memory :=
  { m with events := m.events ++ [event] }

def lookUp (session : SessionId) : HostM (Option SessionRecord) :=
  peek fun m => m.sessions.get? session

/-- `if let Some(r) = sessions.get_mut(&session)`. -/
def onSession (session : SessionId) (f : SessionRecord → SessionRecord) : HostM Unit :=
  poke fun m => m.update session f

def emit (event : DomainEvent) : HostM Unit := poke fun m => m.emit event

def SessionRecord.setWorkflow (r : SessionRecord) (workflow : Workflow) : SessionRecord :=
  { r with workflow }

def setWorkflow (session : SessionId) (workflow : Workflow) : HostM Unit :=
  onSession session fun r => r.setWorkflow workflow

def clearWorkflow (session : SessionId) : HostM Unit := setWorkflow session .none

def workflowOf (session : SessionId) : HostM (Option Workflow) :=
  peek fun m => (m.sessions.get? session).map (·.workflow)

def onRadio (r : SessionRecord) : Bool := r.transport = "meshcore" || r.transport = "meshtastic"

def sessionOnRadio (session : SessionId) : HostM Bool :=
  peek fun m => (m.sessions.get? session).any onRadio

/-- Remove every session `p` holds of, reporting each as ended for `reason`. -/
def Memory.endSessions (m : Memory) (p : SessionId → SessionRecord → Bool) (reason : String) :
    Memory :=
  { m with
    sessions := m.sessions.filter fun id r => !p id r
    events := m.events ++
      (m.sessions.filter p).rows.map fun r => .sessionEnded r.1 reason }

def endSessionsOf (username : Username) (reason : String) : HostM Unit :=
  poke fun m => m.endSessions (fun _ r => r.username = some username) reason

def Memory.setLevels (m : Memory) (username : Username) (level : PermissionLevel) : Memory :=
  { m with sessions := m.sessions.map fun _ r =>
      if r.username = some username then { r with level } else r }

def setLevelsOf (username : Username) (level : PermissionLevel) : HostM Unit :=
  poke fun m => m.setLevels username level

/-! ## Opening and closing a session -/

def SessionRecord.opened (transport : String) : SessionRecord where
  transport := transport
  username := none
  userId := none
  level := .unvalidated
  workflow := .none
  currentRoom := lobby
  currentMessageId := none
  lastPostConfirmation := none

def createSession (transport : String) : HostM SessionId := do
  let id ← peek fun m => m.sessions.seq + 1
  poke fun m => { m with sessions := m.sessions.insert (.opened transport) }
  emit (.sessionCreated id transport)
  pure id

def endSession (session : SessionId) : HostM Unit := do
  poke fun m => { m with sessions := m.sessions.erase session }
  emit (.sessionEnded session "end_session")

/-! ## Who is asking -/

structure Auth where
  username : Username
  userId : UserId
  level : PermissionLevel
  roomId : RoomId
deriving DecidableEq

def notLoggedIn : Response :=
  .error "Not logged in. Use 'login <username>' or 'register <username>'."

def pendingValidation : Response :=
  .text ("Your account is pending validation by an aide.\n" ++
    "Type H for help, WHOAMI to see your status, or Q to log out.")

def sessionAuth (session : SessionId) : HostM (Except Response Auth) :=
  peek fun m =>
    match m.sessions.get? session with
    | none => .error (.error "Unknown session.")
    | some r =>
        match r.username, r.userId with
        | some username, some userId => .ok ⟨username, userId, r.level, r.currentRoom⟩
        | _, _ => .error notLoggedIn

def SessionRecord.setLevel (r : SessionRecord) (level : PermissionLevel) : SessionRecord :=
  { r with level }

/-- The account's level, and the cached one when the account cannot be read. -/
def currentLevel (userId : UserId) (cached : PermissionLevel) : HostM PermissionLevel := do
  let user ← tryDb (UserStore.getById userId)
  match user with
  | .ok (some u) => pure u.permissionLevel
  | _ => pure cached

def sessionAuthUser (session : SessionId) : HostM (Except Response Auth) := do
  let auth ← sessionAuth session
  match auth with
  | .error r => pure (.error r)
  | .ok auth => do
      let level ← currentLevel auth.userId auth.level
      onlyIf (level ≠ auth.level) (onSession session fun r => r.setLevel level)
      if .user ≤ level then pure (.ok { auth with level })
      else do
        let requireVerify ← peek fun m => m.accessPolicy.requireVerify
        if requireVerify then pure (.error pendingValidation)
        else do
          onSession session fun r => r.setLevel .user
          pure (.ok { auth with level := .user })

def sessionAuthOrGuest (session : SessionId) : HostM (Except Response Auth) := do
  let auth ← sessionAuthUser session
  match auth with
  | .ok auth => pure (.ok auth)
  | .error pending => do
      let guestRoom ← peek (·.guestRoomId)
      if guestRoom.isSome then do
        let auth ← sessionAuth session
        pure (auth.mapError fun _ => pending)
      else pure (.error pending)

/-- `match self.session_auth…(session).await { Ok(t) => …, Err(r) => return Ok(r) }`. -/
def withAuth (auth : HostM (Except Response Auth)) (k : Auth → HostM Response) : HostM Response := do
  let auth ← auth
  match auth with
  | .ok auth => k auth
  | .error r => pure r

end SupplyDrop.Host
