import Mathlib
import SupplyDrop.Host.Policy

namespace SupplyDrop.Host
open Library Store

def adminSetRequireVerify (requireVerify : Bool) : HostM Unit := do
  setRequireVerify requireVerify
  persistAccessPolicy

def settleGuestRoom : Option String → HostM Unit
  | some _ => do
      let ensured ← ensureGuestRoom
      orFail (ensured.mapError .storage)
  | none => setGuestRoomId none

def adminSetGuestRoom (name : Option String) : HostM Unit := do
  setGuestRoomName name
  settleGuestRoom name
  persistAccessPolicy

structure AdminAccessPolicy where
  requireVerify : Bool
  guestRoom : Option String
  guestRoomId : Option RoomId
deriving DecidableEq

def adminGetAccessPolicy : HostM AdminAccessPolicy :=
  peek fun m => ⟨m.accessPolicy.requireVerify, m.accessPolicy.guestRoomName, m.guestRoomId⟩

/-! ## Callers and replies of the web admin -/

structure CurrentUser where
  username : String
  permissionLevel : PermissionLevel
deriving DecidableEq

inductive Authorized where
  | yes (user : CurrentUser)
  | no
  | unavailable
deriving DecidableEq

/-- The account behind a web session, read again on every request. -/
def authorize (username : String) : HostM Authorized := do
  let level ← (Program.attempt (adminAccountLevel username) : HostM _)
  pure (match level with
    | .ok (some level) => if .aide ≤ level then .yes ⟨username, level⟩ else .no
    | .ok none => .no
    | .error _ => .unavailable)

inductive Body where
  | ok
  | error (text : String)
  | room (summary : AdminRoomSummary)
  | policy (policy : AdminAccessPolicy)
deriving DecidableEq

structure Reply where
  status : Nat
  body : Body
deriving DecidableEq

namespace Reply

def ok : Reply := ⟨200, .ok⟩

def badRequest (text : String) : Reply := ⟨400, .error text⟩

def forbidden (text : String) : Reply := ⟨403, .error text⟩

def notFound (text : String) : Reply := ⟨404, .error text⟩

def serverError : Reply := ⟨500, .error "internal server error"⟩

end Reply

def sysopOnly (caller : CurrentUser) (text : String) (k : HostM Reply) : HostM Reply :=
  if caller.permissionLevel < .sysop then pure (.forbidden text) else k

/-- `match … { Ok(a) => …, Err(e) => return … }`, an error leaving what was done. -/
def onResult {α : Type} (m : HostM α) (onError : HostError → Reply) (k : α → HostM Reply) :
    HostM Reply := do
  let result ← (Program.attempt m : HostM _)
  match result with
  | .ok a => k a
  | .error e => pure (onError e)

def webAudit (caller : CurrentUser) (action : String) (target detail : Option String) :
    HostM Unit :=
  audit ("web:" ++ caller.username) action target detail

/-! ## PATCH /users/:username -/

structure UpdateUserBody where
  status : Option Nat
  permissionLevel : Option Nat
  password : Option String
  suspendDays : Option Nat
deriving DecidableEq

def UpdateUserBody.touchesStanding (body : UpdateUserBody) : Bool :=
  body.status.isSome || body.permissionLevel.isSome || body.suspendDays.isSome

/-- Why a request is refused before anything is changed. -/
def updateRefusal (caller : CurrentUser) (username : String) (body : UpdateUserBody) :
    Option Reply :=
  if !body.touchesStanding && body.password.isNone then
    some (.badRequest
      "at least one of status, permission_level, password, or suspend_days is required")
  else if body.status.isSome && body.suspendDays.isSome then
    some (.badRequest "status and suspend_days are mutually exclusive in one request")
  else if body.permissionLevel.isSome && caller.permissionLevel < .sysop then
    some (.forbidden "sysop required to change permission level")
  else if body.password.isSome && caller.permissionLevel < .sysop then
    some (.forbidden "sysop required to reset a password")
  else if body.password.any fun pw => pw.utf8ByteSize < 6 then
    some (.badRequest "password must be at least 6 characters")
  else if body.touchesStanding && Text.eqIgnoreAsciiCase caller.username username then
    some (.forbidden "you can't change your own status, permission level, or suspend yourself")
  else none

def orNotFound : HostError → Reply
  | .notFound _ => .notFound "user not found"
  | _ => .serverError

def orRefused : HostError → Reply
  | .notFound _ => .notFound "user not found"
  | .preconditionFailed msg => .badRequest msg
  | _ => .serverError

def statusAction (status : Nat) : String :=
  if status = 1 then "ban" else if status = 2 then "delete_user" else "unban"

def auditStatus (caller : CurrentUser) (username : String) : Option Nat → HostM Unit
  | some status => webAudit caller (statusAction status) (some username) none
  | none => pure ()

def auditLevel (caller : CurrentUser) (username : String) : Option Nat → HostM Unit
  | some level => webAudit caller "set_permission" (some username) (some s!"level -> {level}")
  | none => pure ()

def patchStanding (caller : CurrentUser) (username : String) (body : UpdateUserBody)
    (k : HostM Reply) : HostM Reply :=
  if body.status.isSome || body.permissionLevel.isSome then
    onResult (adminUpdateUser username body.status body.permissionLevel) orNotFound fun _ => do
      auditStatus caller username body.status
      auditLevel caller username body.permissionLevel
      k
  else k

def patchPassword (caller : CurrentUser) (username : String) (password : Option String)
    (k : HostM Reply) : HostM Reply :=
  match password with
  | none => k
  | some pw => onResult (adminSetPassword username pw) orNotFound fun _ => do
      webAudit caller "reset_password" (some username) none
      k

def patchSuspension (caller : CurrentUser) (username : String) (days : Option Nat)
    (k : HostM Reply) : HostM Reply :=
  match days with
  | none => k
  | some days => onResult (adminSuspendUser username days) orRefused fun _ => do
      webAudit caller "timeout" (some username) (some (daysDetail days))
      k

def apiUpdateUser (caller : CurrentUser) (username : String) (body : UpdateUserBody) :
    HostM Reply :=
  match updateRefusal caller username body with
  | some refusal => pure refusal
  | none =>
      patchStanding caller username body
        (patchPassword caller username body.password
          (patchSuspension caller username body.suspendDays (pure .ok)))

/-! ## Rooms, messages, sessions and policy -/

def apiCreateRoom (caller : CurrentUser) (rawName : String) (description : Option String) :
    HostM Reply :=
  sysopOnly caller "sysop required to create rooms"
    (let name := Text.trim rawName
    if name.isEmpty || 64 < name.utf8ByteSize then
      pure (.badRequest "room name must be 1–64 characters")
    else if 512 < (description.map String.utf8ByteSize).getD 0 then
      pure (.badRequest "description max 512 characters")
    else onResult (adminCreateRoom name description) (fun _ => .serverError) fun room => do
      webAudit caller "create_room" (some name) none
      pure ⟨201, .room room⟩)

def apiUpdateRoom (caller : CurrentUser) (id : RoomId) (description : Option (Option String))
    (readOnly : Option Bool) (minPermissionLevel : Option Nat) : HostM Reply :=
  sysopOnly caller "sysop required to edit rooms"
    (if isLocked id && (readOnly.isSome || minPermissionLevel.isSome) then
      pure ⟨422, .error "permission level and read-only are locked for this room"⟩
    else
      onResult (adminUpdateRoom id description readOnly minPermissionLevel)
        (fun e => match e with
          | .notFound _ => .notFound "room not found"
          | _ => .serverError) fun room => do
        webAudit caller "edit_room" (some room.name) none
        pure ⟨200, .room room⟩)

def apiDeleteRoom (caller : CurrentUser) (id : RoomId) : HostM Reply :=
  sysopOnly caller "sysop required to delete rooms"
    (onResult (adminDeleteRoom id) (fun _ => .serverError) fun deleted =>
      if deleted then do
        webAudit caller "delete_room" (some s!"id={id}") none
        pure .ok
      else pure (.notFound "room not found or protected"))

def apiDeleteMessage (caller : CurrentUser) (id : MessageId) : HostM Reply :=
  sysopOnly caller "sysop required"
    (onResult (adminDeleteMessage id) (fun _ => .serverError) fun deleted =>
      if deleted then do
        webAudit caller "delete_message" (some s!"#{id}") none
        pure .ok
      else pure (.notFound "message not found"))

def apiKillSession (caller : CurrentUser) (session : SessionId) : HostM Reply :=
  sysopOnly caller "sysop required to kill sessions"
    (onResult (adminKillSession session) (fun _ => .serverError) fun killed =>
      if killed then do
        webAudit caller "kill_session" (some s!"{session}") none
        pure .ok
      else pure (.notFound "session not found"))

structure AccessPolicyPatch where
  requireVerify : Option Bool
  guestRoom : Option (Option String)
deriving DecidableEq

def HostError.display : HostError → String
  | .permissionDenied required => s!"permission denied: {required.debug} required"
  | .unknownSession session => s!"session not found: {session}"
  | .notAuthenticated => "session is not authenticated"
  | .notFound text => s!"not found: {text}"
  | .preconditionFailed text => s!"precondition failed: {text}"
  | .storage text => s!"storage error: {text}"
  | .internal text => s!"internal host error: {text}"
  | .notSupported text => s!"operation not supported: {text}"

def orShown (what : String) (e : HostError) : Reply := ⟨500, .error (what ++ ": " ++ e.display)⟩

def patchVerification (requireVerify : Option Bool) (k : HostM Reply) : HostM Reply :=
  match requireVerify with
  | none => k
  | some rv => onResult (adminSetRequireVerify rv) (orShown "set require_verify") fun _ => k

def patchGuestRoom (guestRoom : Option (Option String)) (k : HostM Reply) : HostM Reply :=
  match guestRoom with
  | none => k
  | some name => onResult (adminSetGuestRoom name) (orShown "set guest_room") fun _ => k

def apiPatchAccessPolicy (caller : CurrentUser) (patch : AccessPolicyPatch) : HostM Reply :=
  sysopOnly caller "sysop required"
    (patchVerification patch.requireVerify (patchGuestRoom patch.guestRoom do
      webAudit caller "access_policy_change" none none
      let policy ← adminGetAccessPolicy
      pure ⟨200, .policy policy⟩))

/-! ## A request -/

inductive WebRequest where
  | updateUser (username : String) (body : UpdateUserBody)
  | createRoom (name : String) (description : Option String)
  | updateRoom (id : RoomId) (description : Option (Option String)) (readOnly : Option Bool)
      (minPermissionLevel : Option Nat)
  | deleteRoom (id : RoomId)
  | deleteMessage (id : MessageId)
  | killSession (session : SessionId)
  | patchAccessPolicy (patch : AccessPolicyPatch)
deriving DecidableEq

def handleRequest (caller : CurrentUser) : WebRequest → HostM Reply
  | .updateUser username body => apiUpdateUser caller username body
  | .createRoom name description => apiCreateRoom caller name description
  | .updateRoom id description readOnly minPermissionLevel =>
      apiUpdateRoom caller id description readOnly minPermissionLevel
  | .deleteRoom id => apiDeleteRoom caller id
  | .deleteMessage id => apiDeleteMessage caller id
  | .killSession session => apiKillSession caller session
  | .patchAccessPolicy patch => apiPatchAccessPolicy caller patch

/-- `auth_middleware`, for a request of the web session `username` logged in with. -/
def serve (username : String) (request : WebRequest) : HostM Reply := do
  let authorized ← authorize username
  match authorized with
  | .yes caller => handleRequest caller request
  | .no => pure ⟨401, .error "not authenticated"⟩
  | .unavailable => pure ⟨503, .error "could not check the session; try again"⟩

end SupplyDrop.Host
