import Mathlib
import SupplyDrop.Host.State
import SupplyDrop.Host.Parse
import SupplyDrop.Store.Credentials
import SupplyDrop.Store.Messages
import SupplyDrop.Store.Rooms

namespace SupplyDrop.Host
open Library Store

/-! ## Standing of an account -/

inductive LoginSuspensionCheck where
  | allowed (user : User)
  | suspended (daysRemaining : Int)
  | permanentlyBanned
deriving DecidableEq

def suspensionDaysRemaining (until_ now : Timestamp) : Int :=
  max (((until_ - now).tdiv UserStore.second + 86400 - 1).tdiv 86400) 1

def User.reactivated (user : User) : User :=
  { user with status := .active, suspendedUntil := none }

/-- What a row read again after it has changed says. -/
def standing (now : Timestamp) : Option User → LoginSuspensionCheck
  | some u =>
      match u.status with
      | .active => .allowed u
      | .banned =>
          match u.suspendedUntil with
          | some until_ => .suspended (suspensionDaysRemaining until_ now)
          | none => .permanentlyBanned
      | .deleted => .permanentlyBanned
  | none => .permanentlyBanned

def resolveSuspension (user : User) : HostM LoginSuspensionCheck :=
  match user.suspendedUntil with
  | none => pure .permanentlyBanned
  | some until_ => do
      let now ← now
      if until_ ≤ now then do
        let ended ← db StoreError.display (UserStore.endExpiredSuspension user.id now)
        if ended then pure (.allowed (User.reactivated user))
        else do
          let fresh ← db StoreError.display (UserStore.getById user.id)
          pure (standing now fresh)
      else pure (.suspended (suspensionDaysRemaining until_ now))

structure Barred where
  reason : String
  text : String
deriving DecidableEq

def loggedOut : String := "You have been logged out."

def Barred.gone : Barred := ⟨"user deleted", s!"Your account no longer exists. {loggedOut}"⟩

def barredBy : LoginSuspensionCheck → Option Barred
  | .allowed _ => none
  | .suspended days => some ⟨"user suspended",
      s!"Your account has been suspended for {days} more day(s). {loggedOut}"⟩
  | .permanentlyBanned => some ⟨"user banned", s!"Your account has been banned. {loggedOut}"⟩

def accountBarred (userId : UserId) : HostM (Option Barred) := do
  let user ← tryDb (UserStore.getById userId)
  match user with
  | .error _ => pure none
  | .ok none => pure (some .gone)
  | .ok (some u) =>
      match u.status with
      | .active => pure none
      | .banned => do
          let check ← resolveSuspension u
          pure (barredBy check)
      | .deleted => pure (some .gone)

def SessionRecord.loggedOut (r : SessionRecord) : SessionRecord := .opened r.transport

/-- Log an account out of every session it holds, the session `keep` in place. -/
def Memory.logOutAccount (m : Memory) (userId : UserId) (keep : SessionId) (reason : String) :
    Memory :=
  (m.endSessions (fun id r => r.userId = some userId && id ≠ keep) reason).update keep fun r =>
    if r.userId = some userId then r.loggedOut else r

def logOutIfAccountBarred (session : SessionId) : HostM (Option Response) := do
  let userId ← peek fun m => (m.sessions.get? session).bind (·.userId)
  match userId with
  | none => pure none
  | some userId => do
      let barred ← accountBarred userId
      match barred with
      | none => pure none
      | some barred => do
          poke fun m => m.logOutAccount userId session barred.reason
          pure (some (.error barred.text))

/-! ## Throttling -/

def maxFailureEntries : Nat := 1000

def elapsedSecs (clock last : Instant) : Nat := (clock - last) / 1000000000

def backoff (failures : Nat) : Nat := min (2 ^ failures) 30

def failuresOf (failures : List (String × Nat × Instant)) (username : String) :
    Option (Nat × Instant) :=
  (failures.find? fun f => f.1 = username).map (·.2)

def throttled (failures : List (String × Nat × Instant)) (clock : Instant) (username : String) :
    Option Nat :=
  (failuresOf failures username).bind fun entry =>
    let elapsed := elapsedSecs clock entry.2
    if elapsed < backoff entry.1 then some (backoff entry.1 - elapsed) else none

def checkLoginThrottle (username : String) : HostM (Option Nat) :=
  peek fun m => throttled m.loginFailures m.clock username

def evictStale (failures : List (String × Nat × Instant)) (clock : Instant) :
    List (String × Nat × Instant) :=
  if maxFailureEntries ≤ failures.length then
    let kept := failures.filter fun f => elapsedSecs clock f.2.2 ≤ 600
    if maxFailureEntries ≤ kept.length then [] else kept
  else failures

def forgetFailures (failures : List (String × Nat × Instant)) (username : String) :
    List (String × Nat × Instant) :=
  failures.filter fun f => f.1 ≠ username

/-- The number of failures with this one. -/
def countFailure (failures : List (String × Nat × Instant)) (clock : Instant) (username : String) :
    Nat :=
  match failuresOf (evictStale failures clock) username with
  | some (count, last) => if 600 < elapsedSecs clock last then 1 else count + 1
  | none => 1

def Memory.recordFailure (m : Memory) (username : String) : Memory :=
  { m with loginFailures := forgetFailures (evictStale m.loginFailures m.clock) username ++
      [(username, countFailure m.loginFailures m.clock username, m.clock)] }

def recordLoginFailure (username : String) : HostM Nat := do
  let failures ← peek fun m => countFailure m.loginFailures m.clock username
  poke fun m => m.recordFailure username
  pure (backoff failures)

def Memory.clearFailures (m : Memory) (username : String) : Memory :=
  { m with loginFailures := forgetFailures m.loginFailures username }

def clearLoginFailures (username : String) : HostM Unit := poke fun m => m.clearFailures username

/-! ## Binding a session -/

/-- `match sessions.get_mut(&session) { Some(r) => …, None => return Err(UnknownSession) }`. -/
def onKnownSession (session : SessionId) (f : SessionRecord → SessionRecord) : HostM Unit := do
  let found ← lookUp session
  match found with
  | some _ => onSession session f
  | none => Program.fail (.unknownSession session)

def SessionRecord.bindTo (r : SessionRecord) (username : Username) (userId : UserId)
    (level : PermissionLevel) (room : RoomId) : SessionRecord :=
  { r with
    username := some username
    userId := some userId
    level := level
    workflow := .none
    currentRoom := room }

def initialRoom (level : PermissionLevel) : HostM RoomId :=
  peek fun m => if level < .user then m.guestRoomId.getD lobby else lobby

def finalizeLogin (session : SessionId) (user : User) : HostM Response := do
  let room ← initialRoom user.permissionLevel
  onKnownSession session fun r => r.bindTo user.username user.id user.permissionLevel room
  emit (.sessionAuthenticated session user.username)
  pure (.loggedIn user.username)

def stampLastLogin (userId : UserId) : HostM Unit := do
  let now ← now
  db (failed "update last_login") (UserStore.update userId none none none (some now))

def operatorReset : Response :=
  .prompt "Your password was reset by an operator. Choose a new password (min 8 characters):" true

/-- The way from a verified password to a login, which a temporary password holds back. `hold` is
how the caller sets the workflow. -/
def completeLogin (session : SessionId) (username : Username) (user : User)
    (hold : SessionId → (SessionRecord → SessionRecord) → HostM Unit) : HostM Response := do
  clearLoginFailures username.text
  stampLastLogin user.id
  let mustChange ← db (failed "must_change lookup") (CredentialStore.mustChangePassword user.id)
  if mustChange then do
    hold session fun r => r.setWorkflow (.forceChangePassword username user.id .enterNew)
    pure operatorReset
  else finalizeLogin session user

/-! ## Registration -/

/-- Why REGISTER and LOGIN are refused before anything else is looked at. -/
def busy (r : SessionRecord) : Option Response :=
  if r.username.isSome then some (.error "Already logged in. Use 'logout' first.")
  else if r.workflow ≠ .none then
    some (.error "A workflow is already in progress. Type 'cancel' first.")
  else none

def notifySysops (username : Username) : HostM Unit := do
  let users ← tryDb (UserStore.list none 200 0)
  let sysops := (users.toOption.getD []).filter fun (u : User) =>
    u.permissionLevel = .sysop && u.status = .active
  let now ← now
  let body := s!"New user registered: {username.text}\n" ++
    s!"V {username.text} to verify, B {username.text} to ban."
  sysops.forM fun sysop => do
    let _ ← tryDb (MessageStore.postDirect .bbs sysop.username body now)
    pure ()

def createUserAndLogin (session : SessionId) (username : Username) (password : String) :
    HostM Response := do
  let now ← now
  let someone ← db (failed "list users") (UserStore.list none 1 0)
  let isFirst := someone.isEmpty
  let initialLevel : PermissionLevel := if isFirst then .sysop else .unvalidated
  let created ← tryDb (UserStore.create username none initialLevel now)
  match created with
  | .error (.conflict _) => do
      clearWorkflow session
      pure (.error s!"'{username.text}' was just taken. Try: register <different_username>")
  | .error e => Program.fail (.storage (failed "create user" e))
  | .ok userId => do
      db (failed "set password") (CredentialStore.setPassword userId password now)
      let room ← initialRoom initialLevel
      onKnownSession session fun r => r.bindTo username userId initialLevel room
      emit (.userCreated username)
      if isFirst then pure (.loggedIn username)
      else do
        notifySysops username
        pure (.loggedIn username)

def taken (username : Username) (retry : String) : Response :=
  .error s!"'{username.text}' is taken. Try: login {username.text}{retry}"

def startRegister (session : SessionId) (rawUsername : String) : HostM Response :=
  match validateNewUsername rawUsername with
  | .error msg => pure (.error msg)
  | .ok username => do
      let existing ← db StoreError.display (UserStore.getByUsername username)
      if existing.isSome then pure (taken username "")
      else do
        onKnownSession session fun r => r.setWorkflow (.register username .password)
        pure (.prompt s!"Registering '{username.text}'. Choose a password (min 8 characters):" true)

def handleRegister (session : SessionId) (rawUsername : String) : HostM Response := do
  let found ← lookUp session
  match found.bind busy with
  | some refusal => pure refusal
  | none => startRegister session rawUsername

def registerNow (session : SessionId) (rawUsername password : String) : HostM Response :=
  match validateNewUsername rawUsername with
  | .error msg => pure (.error msg)
  | .ok username =>
      if password.toList.length < 8 then
        pure (.error "Password must be at least 8 characters. Not registered.")
      else do
        let existing ← db StoreError.display (UserStore.getByUsername username)
        if existing.isSome then pure (taken username " <password>")
        else createUserAndLogin session username password

def handleRegisterOneshot (session : SessionId) (rawUsername password : String) :
    HostM Response := do
  let found ← lookUp session
  match found with
  | none => Program.fail (.unknownSession session)
  | some r =>
      match busy r with
      | some refusal => pure refusal
      | none => registerNow session rawUsername password

/-! ## Login -/

def loginFailed : Response := .error "Login failed."

def suspendedFor (days : Int) : Response := .error s!"You have been suspended for {days} more day(s)."

def mayLogIn (user : Option User) : Option User :=
  user.filter fun u => u.status = .active || u.status = .banned

/-- A verified login of the one-shot path, the account's suspension still to be looked at. -/
def admitOneshot (session : SessionId) (username : Username) (user : User) : HostM Response :=
  if user.status = .banned then do
    let check ← resolveSuspension user
    match check with
    | .allowed u => completeLogin session username u onKnownSession
    | .suspended days => pure (suspendedFor days)
    | .permanentlyBanned => pure loginFailed
  else completeLogin session username user onKnownSession

def loginNow (session : SessionId) (username : Username) (password : String) : HostM Response := do
  let wait ← checkLoginThrottle username.text
  match wait with
  | some wait => pure (.error s!"Too many login attempts. Try again in {wait}s.")
  | none => do
      let user ← db StoreError.display (UserStore.getByUsername username)
      match mayLogIn user with
      | none => pure loginFailed
      | some user => do
          let now ← now
          let ok ← db (failed "verify password")
            (CredentialStore.verifyPassword user.id password now)
          if ok then admitOneshot session username user
          else do
            let _ ← recordLoginFailure username.text
            pure loginFailed

def handleLoginOneshot (session : SessionId) (username : Username) (password : String) :
    HostM Response := do
  let found ← lookUp session
  match found with
  | none => Program.fail (.unknownSession session)
  | some r =>
      match busy r with
      | some refusal => pure refusal
      | none => loginNow session username password

def startLogin (session : SessionId) (username : Username) : HostM Response := do
  let user ← db StoreError.display (UserStore.getByUsername username)
  match mayLogIn user with
  | none => pure loginFailed
  | some _ => do
      onKnownSession session fun r => r.setWorkflow (.login username 0)
      pure (.prompt s!"Enter the password for '{username.text}':" true)

def handleLogin (session : SessionId) (username : Username) : HostM Response := do
  let found ← lookUp session
  match found.bind busy with
  | some refusal => pure refusal
  | none => startLogin session username

/-! ## A node's stored login -/

def meshNodeRestore (session : SessionId) (pubkey : PublicKey) (ttlDays : Nat) :
    HostM (Option Username) := do
  let bound ← db (failed "node_credential lookup") (NodeCredentialStore.lookup pubkey ttlDays)
  match bound with
  | none => pure none
  | some userId => do
      let user ← db (failed "get user by id") (UserStore.getById userId)
      match user.filter fun u => u.status = .active with
      | none => pure none
      | some user => do
          stampLastLogin user.id
          onSession session fun r => r.bindTo user.username user.id user.permissionLevel lobby
          let now ← now
          db (failed "node_credential upsert") (NodeCredentialStore.upsert pubkey userId now)
          pure (some user.username)

def meshNodeBind (session : SessionId) (pubkey : PublicKey) : HostM Unit := do
  let userId ← peek fun m => (m.sessions.get? session).bind (·.userId)
  match userId with
  | none => pure ()
  | some userId => do
      let now ← now
      db (failed "node_credential upsert") (NodeCredentialStore.upsert pubkey userId now)

def meshNodeUnbind (pubkey : PublicKey) : HostM Unit :=
  db (failed "node_credential delete") (NodeCredentialStore.delete pubkey)

end SupplyDrop.Host
