import Mathlib
import SupplyDrop.Store.Database

namespace SupplyDrop.Store
open Library

def tempPasswordAlphabet : List Char :=
  "ABCDEFGHJKLMNPQRSTUVWXYZabcdefghijkmnpqrstuvwxyz23456789".toList

def tempPasswordLen : Nat := 12

namespace CredentialStore

-- the bytes `OsRng` fills in are the next draw
def draw : StoreM Nat := fun s => (.ok s.draws, { s with draws := s.draws + 1 })

def generateTempPassword : StoreM String := do
  let n ← draw
  let bytes ← Program.gets fun s => s.argon2.random n
  pure (String.ofList ((bytes.take tempPasswordLen).map fun b =>
    tempPasswordAlphabet.getD (b % tempPasswordAlphabet.length) 'A'))

def hash (password : String) : StoreM String := do
  let salt ← draw
  let hashed ← Program.gets fun s => s.argon2.hashPassword password salt
  match hashed with
  | .ok phc => pure phc
  | .error e => Program.fail (.decode s!"argon2 hash error: {e}")

-- the upsert of a hash, with `mustChange` as `none` where the statement leaves the column alone
def putHash (userId : UserId) (phcHash : String) (updatedAt : Timestamp) (mustChange : Option Bool) :
    StoreM Unit := do
  statement
  let db ← Program.gets fun s => s.db
  if (db.userCredentials userId).isNone ∧ (db.users.get? userId).isNone then
    Program.fail (.db "FOREIGN KEY constraint failed")
  else
    let kept := ((db.userCredentials userId).map (·.mustChange)).getD false
    let row : Credential := ⟨phcHash, updatedAt, mustChange.getD kept⟩
    Program.modify fun s => { s with db := { s.db with
      userCredentials := fun id => if id = userId then some row else s.db.userCredentials id } }

def setPassword (userId : UserId) (password : String) (now : Timestamp) : StoreM Unit := do
  let phc ← hash password
  putHash userId phc now none

def resetToTempPassword (userId : UserId) (now : Timestamp) : StoreM String := do
  let temp ← generateTempPassword
  let phc ← hash temp
  putHash userId phc now (some true)
  pure temp

def mustChangePassword (userId : UserId) : StoreM Bool :=
  query fun db => ((db.userCredentials userId).map (·.mustChange)).getD false

def clearMustChange (userId : UserId) : StoreM Unit :=
  execute fun db => { db with
    userCredentials := fun id => if id = userId then
      (db.userCredentials id).map fun row => { row with mustChange := false }
    else db.userCredentials id }

def verifyPassword (userId : UserId) (candidate : String) (now : Timestamp) : StoreM Bool := do
  let row ← query fun db => db.userCredentials userId
  match row with
  | none => pure false
  | some credential => do
      let argon2 ← Program.gets fun s => s.argon2
      match argon2.parse credential.phcHash with
      | .error e => Program.fail (.decode s!"malformed PHC hash in DB: {e}")
      | .ok () =>
          if argon2.verifyPassword credential.phcHash candidate then do
            -- a salt for the probe, drawn before the parameters are compared
            let _ ← draw
            if argon2.needsRehash credential.phcHash then do
              let _ ← (Program.attempt (setPassword userId candidate now) : StoreM _)
              pure true
            else pure true
          else pure false

end CredentialStore

namespace NodeCredentialStore

def upsert (pubkey : PublicKey) (userId : UserId) (now : Timestamp) : StoreM Unit := do
  statement
  let db ← Program.gets fun s => s.db
  if (db.users.get? userId).isNone then Program.fail (.db "FOREIGN KEY constraint failed")
  else
    let row : NodeCredential := ⟨userId, now⟩
    Program.modify fun s => { s with db := { s.db with
      nodeCredentials := fun key => if key = pubkey then some row else s.db.nodeCredentials key } }

def millisPerDay : Int := 86400000

def dayOf (t : Timestamp) : Int := t / Calendar.nanosPerSecond / Calendar.secondsPerDay

/-- `last_auth >= datetime('now', '-N days')`. The two texts agree up to the separator after the
date, which is greater in the stored one, so only the days are compared. Before the first Julian day
`datetime` is `NULL`. -/
def current (lastAuth now : Timestamp) (ttlDays : Nat) : Bool :=
  0 ≤ now / 1000000 + 210866760000000 - ttlDays * millisPerDay &&
    dayOf now - ttlDays ≤ dayOf lastAuth

def lookup (pubkey : PublicKey) (ttlDays : Nat) : StoreM (Option UserId) := do
  let now ← Program.gets fun s => s.now
  query fun db => ((db.nodeCredentials pubkey).filter fun row =>
    current row.lastAuth now ttlDays).map (·.userId)

def delete (pubkey : PublicKey) : StoreM Unit :=
  execute fun db => { db with
    nodeCredentials := fun key => if key = pubkey then none else db.nodeCredentials key }

end NodeCredentialStore
end SupplyDrop.Store
