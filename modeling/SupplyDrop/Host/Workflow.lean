import Mathlib
import SupplyDrop.Host.Auth
import SupplyDrop.Host.Rooms
import SupplyDrop.Host.Moderation
import SupplyDrop.Host.Help

namespace SupplyDrop.Host
open Library Store

/-! ## Register -/

def registerPassword (session : SessionId) (username : Username) (reply : String) :
    HostM Response :=
  if reply.toList.length < 8 then
    pure (.prompt (s!"Password for '{username.text}' must be at least 8 characters. " ++
      "Try again:") true)
  else do
    setWorkflow session (.register username (.confirm reply))
    pure (.prompt s!"Confirm the password for '{username.text}':" true)

def registerConfirm (session : SessionId) (username : Username) (password reply : String) :
    HostM Response :=
  if reply ≠ password then do
    setWorkflow session (.register username .password)
    pure (.prompt s!"Passwords didn't match. Choose a password for '{username.text}':" true)
  else createUserAndLogin session username password

/-! ## Login -/

/-- A verified login of the interactive path. Only a banned account is looked at again. -/
def admitLogin (session : SessionId) (username : Username) (user : User) : HostM Response :=
  if user.status = .banned then do
    let check ← resolveSuspension user
    match check with
    | .allowed u => completeLogin session username u onSession
    | .suspended days => do
        clearWorkflow session
        pure (suspendedFor days)
    | .permanentlyBanned => do
        clearWorkflow session
        pure loginFailed
  else completeLogin session username user onSession

def loginAttempts : Nat := 3

def wrongPassword (session : SessionId) (username : Username) (attempts : Nat) :
    HostM Response := do
  let _ ← recordLoginFailure username.text
  if loginAttempts ≤ attempts + 1 then do
    clearWorkflow session
    pure (.error "Too many failed attempts. Type 'login <username>' to try again.")
  else do
    setWorkflow session (.login username (attempts + 1))
    pure (.prompt (s!"Incorrect password ({loginAttempts - (attempts + 1)} attempt(s) " ++
      "remaining). Try again:") true)

def loginReply (session : SessionId) (username : Username) (attempts : Nat) (reply : String) :
    HostM Response := do
  let user ← db StoreError.display (UserStore.getByUsername username)
  match user with
  | none => do
      clearWorkflow session
      pure (.error "Account no longer exists.")
  | some user => do
      let now ← now
      let ok ← db (failed "verify password") (CredentialStore.verifyPassword user.id reply now)
      if ok then admitLogin session username user
      else wrongPassword session username attempts

/-! ## Profile -/

inductive DisplayNameReply where
  | unchanged
  | set (name : Option String)
  | invalid (e : InvalidDisplayName)
deriving DecidableEq

def displayNameReply (trimmed : String) : DisplayNameReply :=
  if trimmed = "-" then .set none
  else if trimmed.isEmpty then .unchanged
  else match validateDisplayName trimmed with
    | .error e => .invalid e
    | .ok () => .set (some trimmed)

def profileReply (session : SessionId) (reply : String) : HostM Response :=
  withAuth (sessionAuth session) fun auth =>
    match displayNameReply (Text.trim reply) with
    | .invalid e => pure (.prompt s!"Invalid display name: {e.display}. Try again (- to clear):" false)
    | .unchanged => do
        clearWorkflow session
        pure (.text "No change made.")
    | .set name => do
        db (failed "update profile") (UserStore.update auth.userId (some name) none none none)
        clearWorkflow session
        pure (.text "Display name updated.")

/-! ## Change of password -/

def verifyOld (session : SessionId) (attempts : Nat) (reply : String) : HostM Response :=
  withAuth (sessionAuth session) fun auth => do
    let now ← now
    let ok ← db (failed "verify_password") (CredentialStore.verifyPassword auth.userId reply now)
    if ok then do
      setWorkflow session (.changePassword .enterNew)
      pure (.prompt "New password (min 8 characters):" true)
    else if loginAttempts ≤ attempts + 1 then do
      clearWorkflow session
      pure (.error "Too many failed attempts. Password not changed.")
    else do
      setWorkflow session (.changePassword (.verifyOld (attempts + 1)))
      pure (.prompt "Incorrect password. Current password:" true)

def enterNew (session : SessionId) (reply : String) : HostM Response :=
  if reply.toList.length < 8 then
    pure (.prompt "Too short (min 8 characters). New password:" true)
  else do
    setWorkflow session (.changePassword (.confirmNew reply))
    pure (.prompt "Confirm new password:" true)

def confirmNew (session : SessionId) (newPassword reply : String) : HostM Response :=
  if reply ≠ newPassword then do
    setWorkflow session (.changePassword .enterNew)
    pure (.prompt "Passwords don't match. New password:" true)
  else withAuth (sessionAuth session) fun auth => do
    let now ← now
    db (failed "set_password") (CredentialStore.setPassword auth.userId newPassword now)
    clearWorkflow session
    pure (.text "Password changed successfully.")

def forceEnterNew (session : SessionId) (username : Username) (userId : UserId) (reply : String) :
    HostM Response :=
  if reply.toList.length < 8 then
    pure (.prompt "Too short (min 8 characters). Choose a new password:" true)
  else do
    setWorkflow session (.forceChangePassword username userId (.confirmNew reply))
    pure (.prompt "Confirm new password:" true)

/-- The end of a login held back by a temporary password. The account's status is not read. -/
def forceConfirmNew (session : SessionId) (username : Username) (userId : UserId)
    (newPassword reply : String) : HostM Response :=
  if reply ≠ newPassword then do
    setWorkflow session (.forceChangePassword username userId .enterNew)
    pure (.prompt "Passwords don't match. Choose a new password:" true)
  else do
    let now ← now
    db (failed "set_password") (CredentialStore.setPassword userId newPassword now)
    db (failed "clear must_change") (CredentialStore.clearMustChange userId)
    let user ← db StoreError.display (UserStore.getByUsername username)
    match user with
    | none => do
        clearWorkflow session
        pure (.error "Account no longer exists.")
    | some user => finalizeLogin session user

/-! ## Reading -/

def SessionRecord.stopReading (r : SessionRecord) : SessionRecord :=
  { r with workflow := .none, currentMessageId := none }

def idAfter (key upper : String) : Option Int :=
  (Text.stripPrefix key upper).bind fun rest => Text.parseI64 (Text.trim rest)

def deleteWhileReading (session : SessionId) (id : Int) : HostM Response := do
  let r ← lookUp session
  let response ← (Program.attempt (handleDelete session id) : HostM _)
  onlyIf (r.bind (·.currentMessageId) = some id) (onSession session fun r => r.stopReading)
  match response with
  | .ok response => pure response
  | .error e => Program.fail e

def deleteTarget (upper : String) (current : Option MessageId) : Option Int :=
  if upper = "D" then current else idAfter "D " upper

def readingReply (session : SessionId) (reply : String) : HostM Response :=
  let upper := Text.toUppercase (Text.trim reply)
  if upper = "F" then handleReadForward session none
  else if upper = "R" then handleReadReverse session
  else if upper = "E" then handleReplyFromReading session
  else if upper = "H" ∨ upper = "?" then pure (.text helpReadingMode)
  else match idAfter "F " upper with
    | some id => handleReadForward session (some id)
    | none => do
        let r ← lookUp session
        match deleteTarget upper (r.bind (·.currentMessageId)) with
        | some id => deleteWhileReading session id
        | none => do
            onSession session fun r => r.stopReading
            pure (.text "Exited reading mode. Type H for help.")

/-! ## The list of rooms -/

def isUnknown : Command → Bool
  | .unknown _ => true
  | _ => false

/-- Anything that is no number off the list is a command, or else the name of a room. -/
def leaveRoomList (processFresh : SessionId → Command → HostM Response) (session : SessionId)
    (trimmed : String) : HostM Response := do
  clearWorkflow session
  let cmd := Command.parse trimmed false
  if isUnknown cmd then handleChangeRoom session trimmed else processFresh session cmd

def chooseRoom (processFresh : SessionId → Command → HostM Response) (session : SessionId)
    (roomIds : List RoomId) (trimmed : String) : HostM Response :=
  if (Text.parseI64 trimmed).any fun n => roomIds.contains n then do
    clearWorkflow session
    handleChangeRoom session trimmed
  else leaveRoomList processFresh session trimmed

def roomsReply (processFresh : SessionId → Command → HostM Response) (session : SessionId)
    (roomIds : List RoomId) (nextPageStart : Option Nat) (reply : String) : HostM Response :=
  let trimmed := Text.trim reply
  if Text.eqIgnoreAsciiCase trimmed "x" ∨ trimmed.isEmpty then do
    clearWorkflow session
    pure (.text "Cancelled.")
  else if Text.eqIgnoreAsciiCase trimmed "k" then
    match nextPageStart with
    | some next => handleListRoomsFrom session next
    | none => chooseRoom processFresh session roomIds trimmed
  else chooseRoom processFresh session roomIds trimmed

/-! ## The review queue -/

/-- Decide on one account and move on. The answer is the decision's, not the next prompt. -/
def reviewThen (session : SessionId) (pending : List Username) (nextIndex : Nat)
    (decide : HostM Response) : HostM Response := do
  let result ← (Program.attempt decide : HostM _)
  let _ ← advanceReviewPending session pending nextIndex
  match result with
  | .ok response => pure response
  | .error e => Program.fail e

def skipOrExit (session : SessionId) (pending : List Username) (nextIndex : Nat) (isExit : Bool) :
    HostM Response :=
  if pending.length ≤ nextIndex ∨ isExit then do
    clearWorkflow session
    pure (.text "Exited review queue.")
  else advanceReviewPending session pending nextIndex

def reviewReply (session : SessionId) (pending : List Username) (index : Nat) (reply : String) :
    HostM Response :=
  match pending[index]? with
  | none => do
      clearWorkflow session
      pure (.text "No more pending accounts.")
  | some username =>
      let upper := Text.toUppercase (Text.trim reply)
      if upper = "V" then
        reviewThen session pending (index + 1) (handleValidateUser session username)
      else if upper = "B" then
        reviewThen session pending (index + 1) (handleBanUser session username)
      else if upper = "S" ∨ upper = "X" then
        skipOrExit session pending (index + 1) (upper = "X")
      else pure (.prompt s!"{username.text} — V Validate  S Skip  B Ban  X Exit" false)

/-! ## A reply to whatever is waiting -/

def isAuthWorkflow : Workflow → Bool
  | .register _ _ => true
  | .login _ _ => true
  | _ => false

/-- A command retyped inside the registration or login prompt starts it over. -/
def restartAuth (session : SessionId) (escape : AuthEscape) : HostM Response := do
  clearWorkflow session
  match escape with
  | .register username (some password) => handleRegisterOneshot session username password
  | .register username none => handleRegister session username
  | .login username (some password) => handleLoginOneshot session username password
  | .login username none => handleLogin session username

def composeReply (session : SessionId) (roomId : RoomId) (stage : ComposeStage) (reply : String) :
    HostM Response :=
  match stage with
  | .awaitingRecipient => composeRecipient session roomId reply
  | .awaitingBody recipient => composeBody session roomId recipient reply
  | .awaitingConfirmation recipient body => composeConfirm session roomId recipient body reply

def changePasswordReply (session : SessionId) (stage : ChangePwdStage) (reply : String) :
    HostM Response :=
  match stage with
  | .verifyOld attempts => verifyOld session attempts reply
  | .enterNew => enterNew session reply
  | .confirmNew newPassword => confirmNew session newPassword reply

def forceChangeReply (session : SessionId) (username : Username) (userId : UserId)
    (stage : ForcePwdStage) (reply : String) : HostM Response :=
  match stage with
  | .enterNew => forceEnterNew session username userId reply
  | .confirmNew newPassword => forceConfirmNew session username userId newPassword reply

def registerReply (session : SessionId) (username : Username) (stage : RegisterStage)
    (reply : String) : HostM Response :=
  match stage with
  | .password => registerPassword session username reply
  | .confirm password => registerConfirm session username password reply

def dispatchReply (processFresh : SessionId → Command → HostM Response) (session : SessionId)
    (workflow : Workflow) (reply : String) : HostM Response :=
  match workflow with
  | .none => pure (.error "No active workflow. Type 'H'.")
  | .register username stage => registerReply session username stage reply
  | .login username attempts => loginReply session username attempts reply
  | .compose roomId stage => composeReply session roomId stage reply
  | .editProfile => profileReply session reply
  | .changePassword stage => changePasswordReply session stage reply
  | .forceChangePassword username userId stage =>
      forceChangeReply session username userId stage reply
  | .reading => readingReply session reply
  | .rooms roomIds nextPageStart => roomsReply processFresh session roomIds nextPageStart reply
  | .reviewPending pending index => reviewReply session pending index reply

def handleWorkflowReply (processFresh : SessionId → Command → HostM Response)
    (session : SessionId) (reply : String) : HostM Response := do
  let workflow ← workflowOf session
  match workflow with
  | none => Program.fail (.unknownSession session)
  | some workflow =>
      match if isAuthWorkflow workflow then authEscape reply else none with
      | some escape => restartAuth session escape
      | none => dispatchReply processFresh session workflow reply

end SupplyDrop.Host
