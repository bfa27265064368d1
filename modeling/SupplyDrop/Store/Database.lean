import Mathlib
import SupplyDrop.Library.Program
import SupplyDrop.Library.RowTable
import SupplyDrop.Library.Text
import SupplyDrop.Library.Calendar
import SupplyDrop.Store.Types

namespace SupplyDrop.Store
open Library

structure Credential where
  phcHash : String
  updatedAt : Timestamp
  mustChange : Bool
deriving DecidableEq

abbrev PublicKey := BitVec 256

structure NodeCredential where
  userId : UserId
  lastAuth : Timestamp
deriving DecidableEq

structure Block where
  blocker : String
  blocked : String
  blockedAtMessageId : Option MessageId
deriving DecidableEq

/-- The text `YYYY-MM-DDTHH:MM:SSZ` of an audit entry, with what follows the month as a number of
seconds. Being of fixed width, the texts compare as these parts do. -/
structure AuditTime where
  year : Int
  month : Nat
  second : Nat
  valid : 1 ≤ month ∧ month ≤ 12
deriving DecidableEq

def AuditTime.ofTimestamp (t : Timestamp) : AuditTime :=
  let seconds := t / Calendar.nanosPerSecond
  let days := seconds / Calendar.secondsPerDay
  { year := Calendar.year days
    month := Calendar.month days
    second := ((Calendar.dayOfMonth days - 1) * Calendar.secondsPerDay +
      seconds % Calendar.secondsPerDay).toNat
    valid := Calendar.month_mem days }

structure AuditRow where
  actor : String
  action : String
  target : Option String
  detail : Option String
  createdAt : AuditTime
deriving DecidableEq

structure Database where
  users : RowTable UserRow
  userCredentials : UserId → Option Credential
  rooms : RowTable RoomRow
  messages : RowTable MessageRow
  roomMessages : Finset (RoomId × MessageId)
  -- the outer `none` is a missing row, the inner one a pointer gone `NULL`
  userRoomState : UserId → RoomId → Option (Option MessageId)
  auditLog : RowTable AuditRow
  userBlocks : List Block
  nodeCredentials : PublicKey → Option NodeCredential

def Database.empty (rooms : RowTable RoomRow) : Database where
  users := .empty 0
  userCredentials := fun _ => none
  rooms := rooms
  messages := .empty 0
  roomMessages := ∅
  userRoomState := fun _ _ => none
  auditLog := .empty 0
  userBlocks := []
  nodeCredentials := fun _ => none

/-- What the credential store uses of the `argon2` crate and of `OsRng`. -/
structure Argon2 where
  hashPassword : String → Nat → Except String String
  parse : String → Except String Unit
  verifyPassword : String → String → Bool
  needsRehash : String → Bool
  random : Nat → List Nat

-- a hash that keeps its password, for evaluating the model
def Argon2.transparent : Argon2 where
  hashPassword password salt := .ok (toString salt ++ "$" ++ password)
  parse _ := .ok ()
  verifyPassword phc candidate :=
    (Text.splitOnce (· = '$') phc).map (·.2) = some candidate
  needsRehash _ := false
  random n := List.replicate 12 n

structure Storage where
  db : Database
  now : Timestamp
  -- one entry for each statement to come: `some e` makes it fail with `e`
  faults : List (Option String)
  argon2 : Argon2
  draws : Nat

abbrev StoreM := Program Storage StoreError

/-! ## Statements and transactions -/

def statement : StoreM Unit := fun s =>
  match s.faults with
  | [] => (.ok (), s)
  | none :: rest => (.ok (), { s with faults := rest })
  | some e :: rest => (.error (.db e), { s with faults := rest })

def query {α : Type} (f : Database → α) : StoreM α := do
  statement
  Program.gets fun s => f s.db

def execute (f : Database → Database) : StoreM Unit := do
  statement
  Program.modify fun s => { s with db := f s.db }

def maxRowid : Int := 2 ^ 63 - 1

/-- `INSERT` into a table that assigns the rowid, returning `last_insert_rowid`. The rowid is drawn
before the constraints on the columns are checked. -/
def insertRow {α : Type} (table : Database → RowTable α) (put : Database → RowTable α → Database)
    (violated : Database → Option StoreError) (row : α) : StoreM Int := do
  statement
  let db ← Program.gets fun s => s.db
  if maxRowid ≤ (table db).seq then Program.fail (.db "database or disk is full")
  else match violated db with
    | some e => Program.fail e
    | none => do
        Program.modify fun s => { s with db := put db ((table db).insert row) }
        pure ((table db).seq + 1)

def rollback (before after : Storage) : Storage := { after with db := before.db }

def transaction {α : Type} (m : StoreM α) : StoreM α :=
  Program.atomically rollback do
    -- BEGIN and COMMIT can fail as any other statement
    statement
    let a ← m
    statement
    pure a

theorem statement_db (s : Storage) : (statement s).2.db = s.db := by
  unfold statement
  split <;> rfl

theorem query_db {α : Type} (f : Database → α) (s : Storage) : (query f s).2.db = s.db := by
  rw [query, Program.bind_apply, ← statement_db s]
  split <;> simp_all

theorem query_ok {α : Type} {f : Database → α} {s s' : Storage} {a : α}
    (h : query f s = (.ok a, s')) : a = f s.db ∧ s'.db = s.db := by
  obtain ⟨_, middle, first, last⟩ := Program.bind_eq_ok h
  have same := statement_db s
  rw [first] at same
  cases last
  exact ⟨congrArg f same, same⟩

theorem execute_ok {f : Database → Database} {s s' : Storage} {a : Unit}
    (h : execute f s = (.ok a, s')) : s'.db = f s.db := by
  obtain ⟨_, middle, first, last⟩ := Program.bind_eq_ok h
  have same := statement_db s
  rw [first] at same
  cases last
  exact congrArg f same

theorem insertRow_ok {α : Type} {table : Database → RowTable α}
    {put : Database → RowTable α → Database} {violated : Database → Option StoreError} {row : α}
    {s s' : Storage} {id : Int} (h : insertRow table put violated row s = (.ok id, s')) :
    violated s.db = none ∧ id = (table s.db).seq + 1 ∧
      s'.db = put s.db ((table s.db).insert row) := by
  obtain ⟨_, s₁, started, rest⟩ := Program.bind_eq_ok h
  obtain ⟨db, s₂, got, rest⟩ := Program.bind_eq_ok rest
  obtain ⟨rfl, rfl⟩ := Program.gets_ok got
  have same := statement_db s
  rw [started] at same
  rw [← same]
  split at rest
  · cases rest
  · cases valid : violated s₂.db with
    | some e =>
        rw [valid] at rest
        cases rest
    | none =>
        rw [valid] at rest
        obtain ⟨_, s₃, written, rest⟩ := Program.bind_eq_ok rest
        cases written
        cases rest
        exact ⟨rfl, rfl, rfl⟩

theorem insertRow_error {α : Type} {table : Database → RowTable α}
    {put : Database → RowTable α → Database} {violated : Database → Option StoreError} {row : α}
    {s : Storage} {e : StoreError} (h : (insertRow table put violated row s).1 = .error e) :
    (insertRow table put violated row s).2.db = s.db := by
  have same := statement_db s
  unfold insertRow at h ⊢
  rw [Program.bind_apply] at h ⊢
  rcases started : statement s with ⟨r, s'⟩
  rw [started] at h same
  cases r with
  | error e' => exact same
  | ok u =>
      simp only [Program.bind_apply, Program.gets_apply] at h ⊢
      split at h
      · next full =>
          rw [if_pos full]
          exact same
      · next room =>
          rw [if_neg room]
          cases valid : violated s'.db with
          | some e' => exact same
          | none =>
              rw [valid] at h
              cases h

theorem transaction_error {α : Type} {m : StoreM α} {s : Storage} {e : StoreError}
    (h : (transaction m s).1 = .error e) : (transaction m s).2.db = s.db := by
  rw [transaction, Program.atomically_error h]
  rfl

theorem transaction_ok {α : Type} {m : StoreM α} {s s' : Storage} {a : α}
    (h : transaction m s = (.ok a, s')) :
    ∃ s₁ s₂, s₁.db = s.db ∧ m s₁ = (.ok a, s₂) ∧ s'.db = s₂.db := by
  have ran := Program.atomically_ok (congrArg Prod.fst h)
  rw [show Program.atomically rollback _ s = _ from h] at ran
  obtain ⟨_, s₁, begun, rest⟩ := Program.bind_eq_ok ran.symm
  obtain ⟨b, s₂, done, rest⟩ := Program.bind_eq_ok rest
  obtain ⟨_, s₃, committed, rest⟩ := Program.bind_eq_ok rest
  cases rest
  refine ⟨s₁, s₂, ?_, done, ?_⟩
  · have := statement_db s
    rwa [begun] at this
  · have := statement_db s₂
    rwa [committed] at this

/-! ## Invariants of the database -/

abbrev KeepsDb {α : Type} (I : Database → Prop) (m : StoreM α) : Prop :=
  Program.Keeps (fun s => I s.db) m

namespace KeepsDb
variable {α : Type} {I : Database → Prop}

theorem statement : KeepsDb I statement := by
  intro s h
  rw [statement_db]
  exact h

theorem insertRow {table : Database → RowTable α} {put : Database → RowTable α → Database}
    {violated : Database → Option StoreError} {row : α}
    (h : ∀ db, I db → I (put db ((table db).insert row))) :
    KeepsDb I (insertRow table put violated row) := by
  intro s holds
  rcases inserted : Store.insertRow table put violated row s with ⟨r, s'⟩
  cases r with
  | ok id =>
      rw [(insertRow_ok inserted).2.2]
      exact h s.db holds
  | error e =>
      have kept := insertRow_error (congrArg Prod.fst inserted)
      rw [inserted] at kept
      rwa [kept]

end KeepsDb

end SupplyDrop.Store
