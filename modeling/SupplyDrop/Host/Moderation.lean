import Mathlib
import SupplyDrop.Host.Admin
import SupplyDrop.Host.Format
import SupplyDrop.Host.Compose
import SupplyDrop.Store.Blocks

namespace SupplyDrop.Host
open Library Store

/-! ## Who may ask, and whom they name -/

def aideRequired : Response := .error "Aide access required."

def sysopRequired : Response := .error "Sysop access required."

/-- The commands of an account of at least `required`. -/
def privileged (session : SessionId) (required : PermissionLevel) (refusal : Response)
    (k : Auth → HostM Response) : HostM Response :=
  withAuth (sessionAuthUser session) fun auth =>
    if auth.level < required then pure refusal else k auth

def userNotFoundHere : Response := .error "User not found."

def withUser (username : Username) (missing : Response) (k : User → HostM Response) :
    HostM Response := do
  let user ← db StoreError.display (UserStore.getByUsername username)
  match user with
  | none => pure missing
  | some user => k user

def roleTag : PermissionLevel → String
  | .sysop => "sysop"
  | .aide => "aide"
  | .user => "user"
  | .unvalidated => "unval"

/-! ## W, PENDING and V -/

def handleWhoIsOnline (session : SessionId) : HostM Response :=
  withAuth (sessionAuthUser session) fun _ => do
    let records ← peek fun m => m.sessions.rows.map (·.2)
    let names := (records.filterMap fun (r : SessionRecord) =>
      r.username.map fun u => s!"{u.text} [{r.level.display}]").mergeSort fun a b => a ≤ b
    let anon := (records.filter fun (r : SessionRecord) => r.username.isNone).length
    let plural := if names.length = 1 then "" else "s"
    let extra := if 0 < anon then [s!"(+{anon} unauthenticated)"] else []
    pure (.text ("\n".intercalate (s!"Online ({names.length} user{plural}):" :: names ++ extra)))

def reviewPrompt (index total : Nat) (username : Username) : Response :=
  .prompt s!"#{index + 1} of {total}: {username.text}  — V Validate  S Skip  B Ban  X Exit" false

def handleListPending (session : SessionId) : HostM Response :=
  privileged session .aide aideRequired fun _ => do
    let allActive ← db StoreError.display (UserStore.list (some .active) 200 0)
    let pending := (allActive.filter fun (u : User) => u.permissionLevel = .unvalidated).map
      (·.username)
    match pending with
    | [] => pure (.text "No accounts pending validation.")
    | first :: _ => do
        setWorkflow session (.reviewPending pending 0)
        pure (reviewPrompt 0 pending.length first)

/-- The next account of the queue, or the end of it. -/
def advanceReviewPending (session : SessionId) (pending : List Username) (nextIndex : Nat) :
    HostM Response :=
  match pending[nextIndex]? with
  | none => do
      clearWorkflow session
      pure (.text "Review complete — no more pending accounts.")
  | some nextUser => do
      setWorkflow session (.reviewPending pending nextIndex)
      pure (reviewPrompt nextIndex pending.length nextUser)

def handleValidateUser (session : SessionId) (username : Username) : HostM Response :=
  privileged session .aide aideRequired fun auth => withUser username userNotFoundHere fun user =>
    if user.permissionLevel ≠ .unvalidated then
      pure (.error (s!"'{username.text}' is already {user.permissionLevel.display} " ++
        "— not pending validation."))
    else do
      db StoreError.display (UserStore.update user.id none none (some .user) none)
      setLevelsOf username .user
      audit auth.username.text "validate" (some username.text) none
      emit (.userValidated username)
      pure (.text s!"'{username.text}' validated — account is now active.")

/-! ## .AIDE, .SYSOP and .USER -/

/-- Why a level is left as it is. -/
def levelRefusal (username : Username) (user : User) (level : PermissionLevel) : Option Response :=
  if user.status ≠ .active then
    some (.error (s!"'{username.text}' is {statusName user.status} " ++
      "— re-activate the account before changing its level."))
  else if user.permissionLevel = .unvalidated then
    some (.error s!"'{username.text}' isn't validated yet — use V {username.text} first.")
  else if user.permissionLevel = level then
    some (.error s!"'{username.text}' is already {level.display}.")
  else none

def lastSysopHere : Response :=
  .error "Can't demote the last Sysop — promote another Sysop first."

def reflectUserLevel (username : Username) (user : User) (level : PermissionLevel) : HostM Unit :=
  if level < user.permissionLevel then endSessionsOf username "permission level lowered"
  else setLevelsOf username level

def applyLevel (auth : Auth) (username : Username) (user : User) (level : PermissionLevel) :
    HostM Response := do
  db (failed "set level") (UserStore.update user.id none none (some level) none)
  reflectUserLevel username user level
  db (failed "audit log failed") (AuditStore.write auth.username.text "set_level"
    (some username.text) (some s!"level -> {level.display}"))
  pure (.text s!"'{username.text}' is now {level.display}.")

def handleSetUserLevel (session : SessionId) (username : Username) (level : PermissionLevel) :
    HostM Response :=
  privileged session .sysop sysopRequired fun auth =>
    if auth.username = username then pure (.error "You can't change your own level.")
    else withUser username userNotFoundHere fun user =>
      match levelRefusal username user level with
      | some refusal => pure refusal
      | none =>
          if lowersSysop user (some level) then do
            let sysops ← countSysops
            if sysops ≤ 1 then pure lastSysopHere
            else applyLevel auth username user level
          else applyLevel auth username user level

/-! ## B -/

def hiddenNote (hidden : Option HiddenWhileBlocked) : String :=
  match hidden with
  | none => ""
  | some h =>
      let plural := if h.count = 1 then "message" else "messages"
      s!" {h.count} earlier {plural} of theirs stayed hidden — F {h.oldest} to read from the oldest."

def blockNow (blocker blocked : String) : HostM Response := do
  db StoreError.display (BlockStore.blockUser blocker blocked)
  pure (.text s!"'{blocked}' is now blocked.")

def unblockAndReport (blockerId : UserId) (blocker blocked : String) : HostM Response := do
  let hidden ← db StoreError.display (BlockStore.hiddenWhileBlocked blockerId blocker blocked)
  db StoreError.display (BlockStore.unblockUser blocker blocked)
  pure (.text (s!"'{blocked}' is no longer blocked." ++ hiddenNote hidden))

def handleBlockUser (session : SessionId) (target : Username) (force : Option Bool) :
    HostM Response :=
  withAuth (sessionAuthUser session) fun auth =>
    if auth.username = target then pure (.error "You cannot block yourself.")
    else withUser target userNotFoundHere fun _ => do
      let blocker := auth.username.text
      let blocked := target.text
      let currently ← db StoreError.display (BlockStore.isBlocking blocker blocked)
      if force.getD (!currently) then
        if currently then pure (.text s!"'{blocked}' is already blocked.")
        else blockNow blocker blocked
      else if currently then unblockAndReport auth.userId blocker blocked
      else pure (.text s!"'{blocked}' is not currently blocked.")

/-! ## BAN, TIMEOUT, UNBAN and .DU -/

def outranks (auth : Auth) (user : User) : Bool := user.permissionLevel < auth.level

def handleBanUser (session : SessionId) (username : Username) : HostM Response :=
  privileged session .aide aideRequired fun auth => withUser username userNotFoundHere fun user =>
    if user.status = .banned then pure (.error s!"'{username.text}' is already banned.")
    else if !outranks auth user then
      pure (.error s!"Cannot ban '{username.text}' — equal or higher permission tier.")
    else do
      db StoreError.display (UserStore.update user.id none (some .banned) none none)
      db StoreError.display (UserStore.clearSuspension user.id)
      endSessionsOf username "user banned"
      audit auth.username.text "ban" (some username.text) none
      pure (.text s!"'{username.text}' has been banned.")

def alreadyBarred (username : Username) (user : User) : Response :=
  if user.suspendedUntil.isSome then .error s!"'{username.text}' is already suspended."
  else .error (s!"'{username.text}' is already permanently banned " ++
    "— UNBAN first to replace with a timeout.")

def daysDetail (days : Nat) : String := "\x7b\"days\":" ++ toString days ++ "\x7d"

def handleTimeoutUser (session : SessionId) (username : Username) (days : Nat) : HostM Response :=
  privileged session .aide aideRequired fun auth => withUser username userNotFoundHere fun user =>
    if user.status = .banned then pure (alreadyBarred username user)
    else if !outranks auth user then
      pure (.error s!"Cannot suspend '{username.text}' — equal or higher permission tier.")
    else do
      adminSuspendUser username.text days
      audit auth.username.text "timeout" (some username.text) (some (daysDetail days))
      pure (.text s!"'{username.text}' has been suspended for {days} day(s).")

def handleUnbanUser (session : SessionId) (username : Username) : HostM Response :=
  privileged session .sysop sysopRequired fun auth => withUser username userNotFoundHere fun user =>
    if user.status ≠ .banned then pure (.error s!"'{username.text}' is not currently banned.")
    else do
      db StoreError.display (UserStore.update user.id none (some .active) none none)
      db StoreError.display (UserStore.clearSuspension user.id)
      audit auth.username.text "unban" (some username.text) none
      pure (.text s!"'{username.text}' has been unbanned.")

-- unlike the others, this removes the sessions without reporting them as ended
def removeSessionsOf (username : Username) : HostM Unit :=
  poke fun m => { m with sessions := m.sessions.filter fun _ r => r.username ≠ some username }

def handleDeleteUser (session : SessionId) (username : Username) : HostM Response :=
  privileged session .sysop sysopRequired fun auth => withUser username userNotFoundHere fun user =>
    if user.status = .deleted then pure (.error s!"'{username.text}' is already deleted.")
    else if !outranks auth user then
      pure (.error s!"Cannot delete '{username.text}' — equal or higher permission tier.")
    else do
      db StoreError.display (UserStore.update user.id none (some .deleted) none none)
      removeSessionsOf username
      audit auth.username.text "delete_user" (some username.text) none
      pure (.text s!"'{username.text}' has been deleted.")

/-! ## U, S <query> and WHOIS -/

def listFilter (filter : Option String) (level : PermissionLevel) :
    Except Response (Option UserStatus × String) :=
  match filter with
  | none => .ok (some .active, "active")
  | some f =>
      if f = "active" then .ok (some .active, "active")
      else if f = "banned" then .ok (some .banned, "banned")
      else if f = "deleted" ∨ f = "all" then
        if .sysop ≤ level then .ok (if f = "deleted" then some .deleted else none, f)
        else .error (.error "Sysop access required for that filter.")
      else .error (.error s!"Unknown filter '{f}'. Use: active, banned, all (sysop).")

def handleListUsers (session : SessionId) (filter : Option String) : HostM Response :=
  withAuth (sessionAuthUser session) fun auth =>
    match listFilter filter auth.level with
    | .error refusal => pure refusal
    | .ok (status, label) => do
        let users ← db StoreError.display (UserStore.list status 50 0)
        if users.isEmpty then pure (.text s!"No {label} users found.")
        else
          let lines := users.map fun (u : User) => s!" {u.username.text} [{roleTag u.permissionLevel}]"
          pure (.text ("\n".intercalate (s!"Users ({label}, {users.length}):" :: lines)))

def statusTag : UserStatus → String
  | .active => ""
  | .banned => " [banned]"
  | .deleted => " [deleted]"

def handleSearchUsers (session : SessionId) (query : String) : HostM Response :=
  withAuth (sessionAuthUser session) fun _ =>
    if query.isEmpty then pure (.error "Usage: SEARCH <username>")
    else do
      let all ← db StoreError.display (UserStore.list none 500 0)
      let found := all.filter fun (u : User) =>
        Text.contains (Text.toLowercase u.username.text) (Text.toLowercase query)
      if found.isEmpty then pure (.text s!"No users matching '{query}'.")
      else
        let lines := found.map fun (u : User) =>
          s!" {u.username.text} [{roleTag u.permissionLevel}]{statusTag u.status}"
        pure (.text ("\n".intercalate (s!"Search '{query}' ({found.length}):" :: lines)))

def userInfoLines (user : User) (sessions : Nat) : List String :=
  let plural := if sessions = 1 then "" else "s"
  [s!"User: {user.username.text}",
    s!"Level: {user.permissionLevel.display}  Status: {statusName user.status}"] ++
    (user.displayName.toList.map fun name => s!"Name: {name}") ++
    [s!"Joined: {toRfc3339 user.createdAt}"] ++
    (user.lastLoginAt.toList.map fun t => s!"Last login: {toRfc3339 t}") ++
    (if 0 < sessions then [s!"Online ({sessions} session{plural})"] else [])

def handleUserInfo (session : SessionId) (username : Username) : HostM Response :=
  withAuth (sessionAuthUser session) fun _ => withUser username userNotFoundHere fun user => do
    let sessions ← peek fun m =>
      (m.sessions.rows.filter fun r => r.2.username = some username).length
    pure (.text ("\n".intercalate (userInfoLines user sessions)))

/-! ## PROFILE, PASSWD and .PW -/

def handleEditProfile (session : SessionId) : HostM Response :=
  withAuth (sessionAuthUser session) fun _ => whenIdle session do
    setWorkflow session .editProfile
    pure (.prompt "Enter your new display name (- to clear, CANCEL to abort):" false)

def handleChangePassword (session : SessionId) : HostM Response :=
  withAuth (sessionAuthUser session) fun _ => whenIdle session do
    setWorkflow session (.changePassword (.verifyOld 0))
    pure (.prompt "Current password:" true)

def handleSetUserPassword (session : SessionId) (target : Username) : HostM Response :=
  privileged session .sysop sysopRequired fun auth =>
    withUser target (.error s!"User '{target.text}' not found.") fun user => do
      let now ← now
      let temp ← db (failed "reset password") (CredentialStore.resetToTempPassword user.id now)
      audit auth.username.text "set_user_password" (some target.text) none
      pure (.text (s!"Temporary password for '{target.text}': {temp}\n" ++
        "They must change it at next login. Share it securely — it is visible on-air."))

/-! ## .C and .DR -/

def handleCreateRoom (session : SessionId) (name : String) : HostM Response :=
  privileged session .sysop sysopRequired fun auth => do
    let existing ← db StoreError.display (RoomStore.getByName name)
    if existing.isSome then pure (.error s!"Room '{name}' already exists.")
    else do
      let now ← now
      let roomId ← db (failed "create room") (RoomStore.create name none false .user now)
      audit auth.username.text "create_room" (some name) none
      pure (.text s!"Room '{name}' created (id={roomId}).")

def isSystemRoom (id : RoomId) : Bool := id = lobby || id = mail || id = aides

def handleDeleteRoom (session : SessionId) (name : String) : HostM Response :=
  privileged session .sysop sysopRequired fun auth => do
    let room ← db StoreError.display (RoomStore.getByName name)
    match room with
    | none => pure (.error s!"Room '{name}' not found.")
    | some room =>
        if isSystemRoom room.id then pure (.error s!"Cannot delete system room '{room.name}'.")
        else do
          db (failed "delete room") (RoomStore.delete room.id)
          audit auth.username.text "delete_room" (some name) none
          pure (.text s!"Room '{name}' deleted.")

end SupplyDrop.Host
