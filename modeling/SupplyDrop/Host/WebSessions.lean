import Mathlib
import SupplyDrop.Library.KeyedTable
import SupplyDrop.Host.Web

namespace SupplyDrop.Host.Web
open Library Store

/-! ## The account read -/

/-- How far `admin_account_level` has come, up to its next statement. -/
inductive Reading where
  | byUsername (name : Username)
  | endSuspension (user : User) (now : Timestamp)
  | byId (id : UserId) (now : Timestamp)
  | done (result : Except HostError (Option PermissionLevel))

namespace Reading

def start (username : String) : Reading :=
  match username? username with
  | none => .done (.ok none)
  | some name => .byUsername name

def unread (e : StoreError) : Reading := .done (.error (.storage e.display))

/-- What the row says, `now` being read after it. -/
def found (now : Timestamp) : Option User → Reading
  | none => .done (.ok none)
  | some user =>
      match user.status with
      | .active => .done (.ok (some user.permissionLevel))
      | .deleted => .done (.ok none)
      | .banned =>
          match user.suspendedUntil with
          | none => .done (.ok none)
          | some until_ => if until_ ≤ now then .endSuspension user now else .done (.ok none)

def levelIf : LoginSuspensionCheck → Option PermissionLevel
  | .allowed user => some user.permissionLevel
  | _ => none

def next : Reading → Storage → Reading × Storage
  | .byUsername name, s =>
      match UserStore.getByUsername name s with
      | (.ok user, s') => (found s'.now user, s')
      | (.error e, s') => (unread e, s')
  | .endSuspension user now, s =>
      match UserStore.endExpiredSuspension user.id now s with
      | (.ok true, s') => (.done (.ok (some (User.reactivated user).permissionLevel)), s')
      | (.ok false, s') => (.byId user.id now, s')
      | (.error e, s') => (unread e, s')
  | .byId id now, s =>
      match UserStore.getById id s with
      | (.ok fresh, s') => (.done (.ok (levelIf (standing now fresh))), s')
      | (.error e, s') => (unread e, s')
  | .done result, s => (.done result, s)

end Reading

/-! ## Sessions -/

structure WebSession where
  token : String
  username : String
  permissionLevel : PermissionLevel
  expiresAt : Instant
deriving DecidableEq

def sessionTtlSecs : Nat := 12 * 60 * 60

structure AppState where
  sessions : KeyedTable WebSession.token
  clock : Instant
  store : Storage

namespace AppState

def createSession (token username : String) (level : PermissionLevel) (w : AppState) : AppState :=
  { w with sessions :=
      w.sessions.put ⟨token, username, level, w.clock + sessionTtlSecs * 1000000000⟩ }

def cachedSession (token : String) (w : AppState) : Option CurrentUser × AppState :=
  match (w.sessions.get? token).filter fun s => w.clock < s.expiresAt with
  | some s => (some ⟨s.username, s.permissionLevel⟩, w)
  | none => (none, { w with sessions := w.sessions.erase token })

def removeSession (token : String) (w : AppState) : AppState :=
  { w with sessions := w.sessions.erase token }

def invalidateSessionsFor (username : String) (w : AppState) : AppState :=
  { w with sessions := w.sessions.filter fun s => s.username ≠ username }

/-- The rest of `authorize`, once the account was read. -/
def settle (token : String) (cached : CurrentUser) (w : AppState) :
    Except HostError (Option PermissionLevel) → Authorized × AppState
  | .ok (some level) =>
      if .aide ≤ level then
        match w.sessions.get? token with
        | some _ => (.yes ⟨cached.username, level⟩, { w with
            sessions := w.sessions.modify token (fun s => { s with permissionLevel := level })
              fun _ => rfl })
        | none => (.no, w)
      else (.no, w.invalidateSessionsFor cached.username)
  | .ok none => (.no, w.invalidateSessionsFor cached.username)
  | .error _ => (.unavailable, w)

end AppState

/-! ## Requests -/

def trimSlashes (s : String) : String := String.ofList (s.toList.rdropWhile (· = '/'))

def originAllowed (externalOrigin origin : Option String) : Bool :=
  match externalOrigin, origin with
  | some expected, some origin => origin = trimSlashes expected
  | _, _ => true

/-- Whom the middleware lets a request through as, or what it replies. -/
def admitted : Authorized → Except Reply CurrentUser
  | .yes user => .ok user
  | .no => .error ⟨401, .error "not authenticated"⟩
  | .unavailable => .error ⟨503, .error "could not check the session; try again"⟩

inductive Stage where
  | reading (cached : CurrentUser) (progress : Reading)
  | answered (answer : Except Reply CurrentUser)

structure Incoming where
  token : String
  stage : Stage
  -- what there was when it came in, and when it was answered
  arrival : AppState
  settled : AppState
  -- the account its session named as the read began, and the store as the read ended
  account : Option UserId
  shown : Storage
  result : Option (Except HostError (Option PermissionLevel))
  -- the sessions that its own steps have ended
  ended : List String

def endedBetween (w w' : AppState) : List String :=
  (w.sessions.entries.map (·.token)).filter fun token => (w'.sessions.get? token).isNone

structure Server where
  state : AppState
  incoming : List Incoming

namespace Server

def arrival (w : AppState) (token : String) (stage : Stage) (ended : List String) : Incoming where
  token := token
  stage := stage
  arrival := w
  settled := w
  account := none
  shown := w.store
  result := none
  ended := ended

def arrive (externalOrigin origin : Option String) (token : String) (p : Server) : Server :=
  let joining (stage : Stage) (w : AppState) : Server :=
    ⟨w, p.incoming ++ [arrival p.state token stage (endedBetween p.state w)]⟩
  if originAllowed externalOrigin origin then
    match p.state.cachedSession token with
    | (some cached, w) => joining (.reading cached (.start cached.username)) w
    | (none, w) => joining (.answered (admitted .no)) w
  else joining (.answered (.error ⟨403, .error "origin not allowed"⟩)) p.state

/-- The account that the name of a session names. -/
def named (username : String) (s : Storage) : Option UserId :=
  (username? username).bind fun name =>
    (s.db.users.rows.find? fun r => r.2.username = name).map (·.1)

/-- What a request does until it waits again. -/
def resume (r : Incoming) (w : AppState) : Incoming × AppState :=
  match r.stage with
  | .answered _ => (r, w)
  | .reading cached (.done result) =>
      let (authorized, w') := w.settle r.token cached result
      ({ r with
        stage := .answered (admitted authorized)
        settled := w
        result := some result
        ended := r.ended ++ endedBetween w w' }, w')
  | .reading cached progress =>
      let (progress', store) := progress.next w.store
      ({ r with
        stage := .reading cached progress'
        account := match progress with
          | .byUsername _ => named cached.username w.store
          | _ => r.account
        shown := store }, { w with store })

def advance (i : Nat) (p : Server) : Server :=
  match p.incoming[i]? with
  | none => p
  | some r =>
      let (r', w) := resume r p.state
      ⟨w, p.incoming.set i r'⟩

end Server

/-! ## Whatever happens -/

inductive WebEvent where
  | login (token username : String) (level : PermissionLevel)
  | logout (token : String)
  | invalidate (username : String)
  | elapse (nanos : Nat)
  -- by whichever route
  | storeChanged (store : Storage)
  | arrive (origin : Option String) (token : String)
  | advance (i : Nat)

def Server.onState (f : AppState → AppState) (p : Server) : Server := { p with state := f p.state }

def Server.next (externalOrigin : Option String) (p : Server) : WebEvent → Server
  | .login token username level => p.onState (·.createSession token username level)
  | .logout token => p.onState (·.removeSession token)
  | .invalidate username => p.onState (·.invalidateSessionsFor username)
  | .elapse nanos => p.onState fun w => { w with clock := w.clock + nanos }
  | .storeChanged store => p.onState fun w => { w with store }
  | .arrive origin token => p.arrive externalOrigin origin token
  | .advance i => p.advance i

end SupplyDrop.Host.Web
