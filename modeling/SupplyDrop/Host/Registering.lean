import Mathlib
import SupplyDrop.Host.Auth

namespace SupplyDrop.Host
open Library Store

/-! ## A registration, one database call at a time -/

/-- How far a registration has come. -/
inductive RegisterPhase where
  | begun
  -- the username was not taken when it was looked up
  | free
  | looked (initialLevel : PermissionLevel) (now : Timestamp)
  | created (userId : UserId) (initialLevel : PermissionLevel) (now : Timestamp)
  | welcomed
  | notifying (sysops : List Username) (now : Timestamp)
  | finished
deriving DecidableEq

structure Registration where
  username : Username
  password : String
  phase : RegisterPhase
deriving DecidableEq

namespace Registration

def levelFor (isFirst : Bool) : PermissionLevel := if isFirst then .sysop else .unvalidated

def activeSysops (users : List User) : List Username :=
  (users.filter fun (u : User) => u.permissionLevel = .sysop && u.status = .active).map (·.username)

def notice (username : Username) : String :=
  s!"New user registered: {username.text}\n" ++
    s!"V {username.text} to verify, B {username.text} to ban."

/-- What follows a call that returned, a registration ending with the first one that fails. -/
def after {α : Type} (next : α → RegisterPhase) : Except StoreError α → RegisterPhase
  | .ok a => next a
  | .error _ => .finished

/-- The next database call of a registration. -/
def advance (username : Username) (password : String) :
    RegisterPhase → Storage → RegisterPhase × Storage
  | .begun, s =>
      let r := UserStore.getByUsername username s
      (after (fun user => if user.isSome then .finished else .free) r.1, r.2)
  | .free, s =>
      let r := UserStore.list none 1 0 s
      (after (fun users => .looked (levelFor users.isEmpty) s.now) r.1, r.2)
  | .looked initialLevel now, s =>
      let r := UserStore.create username none initialLevel now s
      (after (fun userId => .created userId initialLevel now) r.1, r.2)
  | .created userId initialLevel now, s =>
      let r := CredentialStore.setPassword userId password now s
      (after (fun _ => if initialLevel = .sysop then .finished else .welcomed) r.1, r.2)
  | .welcomed, s =>
      let r := UserStore.list none 200 0 s
      (.notifying (activeSysops (r.1.toOption.getD [])) r.2.now, r.2)
  | .notifying (sysop :: rest) now, s =>
      (.notifying rest now, (MessageStore.postDirect .bbs sysop (notice username) now s).2)
  | .notifying [] _, s => (.finished, s)
  | .finished, s => (.finished, s)

end Registration

/-- Registrations in progress on one database. -/
structure Registrar where
  storage : Storage
  calls : List Registration

inductive RegistrarLabel where
  | register (username : Username) (password : String)
  | turn (i : Nat)
  -- the session of the registration is gone
  | vanish (i : Nat)
  | elapse (now : Timestamp) (faults : List (Option String))

namespace Registrar

def setPhase (calls : List Registration) (i : Nat) (phase : RegisterPhase) : List Registration :=
  calls.modify i fun c => { c with phase }

def turn (s : Registrar) (i : Nat) : Registrar :=
  match s.calls[i]? with
  | none => s
  | some call =>
      let r := Registration.advance call.username call.password call.phase s.storage
      { storage := r.2, calls := setPhase s.calls i r.1 }

def next (s : Registrar) : RegistrarLabel → Registrar
  | .register username password => { s with calls := s.calls ++ [⟨username, password, .begun⟩] }
  | .turn i => s.turn i
  | .vanish i => { s with calls := setPhase s.calls i .finished }
  | .elapse now faults => { s with storage := { s.storage with now, faults } }

end Registrar
end SupplyDrop.Host
