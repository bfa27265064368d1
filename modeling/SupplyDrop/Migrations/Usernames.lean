import Mathlib
import SupplyDrop.Library.RowTable
import SupplyDrop.Library.Text
import SupplyDrop.Library.UniqueUpdate
import SupplyDrop.Store.Types

namespace SupplyDrop.Migrations
open Library Store

/-! ## The tables before `0008_lowercase_usernames` -/

structure MailRow where
  sender : String
  recipient : Option String
deriving DecidableEq

structure BlockRow where
  blocker : String
  blocked : String
deriving DecidableEq

structure Column where
  read : BlockRow → String
  write : String → BlockRow → BlockRow
  read_write : ∀ s r, read (write s r) = s
  write_read : ∀ r, write (read r) r = r
  write_write : ∀ s t r, write s (write t r) = write s r

def Column.blocker : Column where
  read := (·.blocker)
  write s r := { r with blocker := s }
  read_write _ _ := rfl
  write_read _ := rfl
  write_write _ _ _ := rfl

def Column.blocked : Column where
  read := (·.blocked)
  write s r := { r with blocked := s }
  read_write _ _ := rfl
  write_read _ := rfl
  write_write _ _ _ := rfl

/-- The columns that name users by text, where a username may still be of mixed case. -/
structure NamedTables where
  users : RowTable String
  blocks : List BlockRow
  messages : List MailRow
  auditActors : List String
  usernames : (users.rows.map (·.2)).Nodup
  pairs : blocks.Nodup

-- `lower` of SQLite, which folds ASCII alone
abbrev lower (s : String) : String := Text.toAsciiLowercase s

/-- `SELECT id FROM users WHERE username = name`. -/
def idOf (users : RowTable String) (name : String) : Option UserId :=
  (users.rows.find? fun r => r.2 = name).map (·.1)

def uniqueFailed (column : String) : StoreError := .db s!"UNIQUE constraint failed: {column}"

/-! ## Statements -/

def setUsernames (set : UserId → String → String) (db : NamedTables) :
    Except StoreError NamedTables :=
  if h : UniqueUpdate.clashes (·.2) (fun r => (r.1, set r.1 r.2)) [] db.users.rows = true then
    .error (uniqueFailed "users.username")
  else
    .ok { db with
      users := db.users.map set
      usernames := by
        have kept := UniqueUpdate.nodup_of_ok _ _ db.usernames (by simpa using h)
        simpa [RowTable.map, Function.comp_def] using kept }

def setBlocks (set : BlockRow → BlockRow) (db : NamedTables) : Except StoreError NamedTables :=
  if h : UniqueUpdate.clashes id set [] db.blocks = true then
    .error (uniqueFailed "user_blocks.blocker, user_blocks.blocked")
  else
    .ok { db with
      blocks := db.blocks.map set
      pairs := by
        have before : (db.blocks.map id).Nodup := by simpa using db.pairs
        exact UniqueUpdate.nodup_of_ok id set before (by simpa using h) }

/-! ## `0008_lowercase_usernames` -/

/-- Another account has the name up to case. -/
def shared (users : RowTable String) (id : UserId) (name : String) : Bool :=
  users.rows.any fun r => lower r.2 = lower name && r.1 ≠ id

def lowerUsername (users : RowTable String) (id : UserId) (name : String) : String :=
  if name ≠ lower name ∧ ¬ shared users id name then lower name else name

/-- The statement on one column of `user_blocks` skips the rows whose lower-case form is there. -/
def lowers (column : Column) (blocks : List BlockRow) (r : BlockRow) : Prop :=
  column.read r ≠ lower (column.read r) ∧ ¬ column.write (lower (column.read r)) r ∈ blocks

instance (column : Column) (blocks : List BlockRow) (r : BlockRow) :
    Decidable (lowers column blocks r) := inferInstanceAs (Decidable (_ ∧ _))

def lowerColumn (column : Column) (blocks : List BlockRow) (r : BlockRow) : BlockRow :=
  if lowers column blocks r then column.write (lower (column.read r)) r else r

def lowerBlocker (blocks : List BlockRow) : BlockRow → BlockRow := lowerColumn .blocker blocks

def lowerBlocked (blocks : List BlockRow) : BlockRow → BlockRow := lowerColumn .blocked blocks

def lowerSender (r : MailRow) : MailRow :=
  if r.sender ≠ lower r.sender then { r with sender := lower r.sender } else r

def lowerRecipient (r : MailRow) : MailRow :=
  match r.recipient with
  | none => r
  | some name => if name ≠ lower name then { r with recipient := some (lower name) } else r

-- `LIKE` does not look at the case of ASCII letters
def lowerActor (actor : String) : String :=
  if actor ≠ lower actor ∧ actor ≠ "system" ∧ (Text.stripPrefix "web:" (lower actor)).isNone then
    lower actor
  else actor

def lowercaseUsernames (db : NamedTables) : Except StoreError NamedTables := do
  let db ← setUsernames (lowerUsername db.users) db
  let db ← setBlocks (lowerBlocker db.blocks) db
  let db ← setBlocks (lowerBlocked db.blocks) db
  pure { db with
    messages := (db.messages.map lowerSender).map lowerRecipient
    auditActors := db.auditActors.map lowerActor }

/-! ## `0009_fix_case_collision_accounts` -/

def suffixed (name : String) (id : UserId) : String := lower name ++ "_" ++ toString id

/-- A mixed-case name that is some account's, as that account is about to be renamed. -/
def suffixedOf (users : RowTable String) (name : String) : String :=
  match idOf users name with
  | some id => if name ≠ lower name then suffixed name id else name
  | none => name

def suffixColumn (column : Column) (users : RowTable String) (r : BlockRow) : BlockRow :=
  column.write (suffixedOf users (column.read r)) r

def suffixBlocker (users : RowTable String) : BlockRow → BlockRow := suffixColumn .blocker users

def suffixBlocked (users : RowTable String) : BlockRow → BlockRow := suffixColumn .blocked users

def suffixUsername (id : UserId) (name : String) : String :=
  if name ≠ lower name then suffixed name id else name

def fixCaseCollisions (db : NamedTables) : Except StoreError NamedTables := do
  let db ← setBlocks (suffixBlocker db.users) db
  let db ← setBlocks (suffixBlocked db.users) db
  setUsernames suffixUsername db

end SupplyDrop.Migrations
