import Mathlib
import SupplyDrop.Host.Types
import SupplyDrop.Store.Audit

namespace SupplyDrop.Host
open Library Store

/-! ## Archive files -/

/-- A file under an archive's name: the last id its header reads back as, when it has a header that
can be read, and the entries in it. -/
structure ArchiveFile where
  through : Option Int
  entries : List AuditEntry

structure AdminAuditArchive where
  filename : String
  sizeBytes : Nat
  createdAt : Timestamp
  entryCount : Option Nat
deriving DecidableEq

def archiveName (year : Int) (month : Nat) : String :=
  "audit-" ++ Text.zeroPadded 4 year ++ "-" ++ Text.zeroPadded 2 month ++ ".zip"

/-- How an archive run ends when it does not return: with an error, or because the process died. -/
inductive Stop where
  | error (e : HostError)
  | crashed
deriving DecidableEq

structure Archiver where
  storage : Storage
  -- the files named `audit-YYYY-MM.zip`, by their month
  archives : Int → Nat → Option ArchiveFile
  aside : List ArchiveFile
  sizeOf : ArchiveFile → Nat
  -- one entry for each file operation to come, `some e` for one that fails
  fileFaults : List (Option String)
  -- how many more operations run before the process dies
  crashAfter : Option Nat
  -- looking for the target, and reading its header, fail without an error being raised
  lookFails : Bool
  readFails : Bool

abbrev ArchiveM := Program Archiver Stop

namespace Archiver

def tick : ArchiveM Unit := fun a =>
  match a.crashAfter with
  | none => (.ok (), a)
  | some 0 => (.error .crashed, a)
  | some (n + 1) => (.ok (), { a with crashAfter := some n })

def db {α : Type} (m : StoreM α) : ArchiveM α := do
  tick
  fun a => ((m a.storage).1.mapError fun e => .error (.storage e.display),
    { a with storage := (m a.storage).2 })

def file (describe : String → String) : ArchiveM Unit := do
  tick
  fun a => match a.fileFaults with
    | [] => (.ok (), a)
    | none :: rest => (.ok (), { a with fileFaults := rest })
    | some e :: rest => (.error (.error (.storage (describe e))), { a with fileFaults := rest })

def setArchive (a : Archiver) (year : Int) (month : Nat) (f : Option ArchiveFile) : Archiver :=
  { a with archives := fun y m => if y = year ∧ m = month then f else a.archives y m }

/-! ## One month -/

def monthRange (year : Int) (month : Nat) : MonthRange :=
  if month = 12 then ⟨year, month, year + 1, 1⟩ else ⟨year, month, year, month + 1⟩

def lookUp (year : Int) (month : Nat) : ArchiveM (Option ArchiveFile) := do
  tick
  Program.gets fun a => if a.lookFails then none else a.archives year month

def archivedThrough (f : ArchiveFile) : ArchiveM (Option Int) := do
  tick
  Program.gets fun a => if a.readFails then none else f.through

def moveAside (year : Int) (month : Nat) (f : ArchiveFile) : ArchiveM Unit := do
  file fun e => "an audit archive for " ++ Text.zeroPadded 4 year ++ "-" ++ Text.zeroPadded 2 month ++
    " exists but won't say what it holds, and could not be moved aside: " ++ e
  Program.modify fun a => { a.setArchive year month none with aside := f :: a.aside }

/-- What a file already at the archive's name leads to. `true` when the month is to be archived
afresh, `false` when an interrupted clear has been finished. -/
def settleExisting (year : Int) (month : Nat) : ArchiveM Bool := do
  let found ← lookUp year month
  match found with
  | none => pure true
  | some f => do
      let archived ← archivedThrough f
      match archived with
      | some through => do
          let stranded ← db (AuditStore.countThrough through)
          if 0 < stranded then do
            let _ ← db (AuditStore.deleteThrough through)
            pure false
          else pure false
      | none => do
          moveAside year month f
          pure true

def batchSize : Nat := 500

def writing (e : String) : String := s!"write audit archive: {e}"
def finishing (e : String) : String := s!"finish audit archive: {e}"

/-- The batches after id `after`. There are never more of them than rows in the log, which is what
`fuel` is. -/
def writeBatches (through : Int) (range : MonthRange) : Nat → Int → List AuditEntry →
    ArchiveM (List AuditEntry)
  | 0, _, written => pure written
  | fuel + 1, after, written => do
      let batch ← db (AuditStore.pageInRange after through range batchSize)
      match batch.getLast? with
      | none => pure written
      | some last => do
          file writing
          writeBatches through range fuel last.id (written ++ batch)

def recordArchiving (filename detail : String) : ArchiveM Unit := do
  let recorded ← Program.attempt
    (db (AuditStore.write "system" "archive_audit_log" (some filename) (some detail)))
  match recorded with
  | .error .crashed => Program.fail .crashed
  | _ => pure ()

def writeArchive (year : Int) (month : Nat) (through : Int) (range : MonthRange) :
    ArchiveM AdminAuditArchive := do
  let first ← db (AuditStore.pageInRange 0 through range 1)
  let firstId := (first.head?.map (·.id)).getD through
  let takenAt ← Program.gets fun a => a.storage.now
  file writing
  let fuel ← Program.gets fun a => a.storage.db.auditLog.rows.length + 1
  let written ← writeBatches through range fuel 0 []
  file finishing
  let archive : ArchiveFile := ⟨some through, written⟩
  -- the rename, after which the size is still to be read
  Program.modify fun a => a.setArchive year month (some archive)
  file finishing
  let sizeBytes ← Program.gets fun a => a.sizeOf archive
  let _ ← db (AuditStore.deleteInRange through range)
  recordArchiving (archiveName year month) s!"{written.length} entries, ids {firstId}-{through}"
  pure ⟨archiveName year month, sizeBytes, takenAt, some written.length⟩

def adminArchiveAuditLog (year : Int) (month : Nat) : ArchiveM (Option AdminAuditArchive) :=
  if ¬ (1 ≤ month ∧ month ≤ 12) then
    Program.fail (.error (.preconditionFailed s!"{month} is not a month"))
  else do
    let range := monthRange year month
    let latest ← db (AuditStore.maxIdBefore range.untilYear range.untilMonth)
    match latest with
    | none => pure none
    | some through => do
        let count ← db (AuditStore.countInRange through range)
        if count = 0 then pure none
        else do
          file fun e => s!"audit archive directory: {e}"
          let afresh ← settleExisting year month
          if afresh then do
            let archive ← writeArchive year month through range
            pure (some archive)
          else pure none

/-! ## All months that are due -/

def nextMonth (year : Int) (month : Nat) : Int × Nat :=
  if month = 12 then (year + 1, 1) else (year, month + 1)

/-- `months` counts the months left before the one in progress. -/
def archiveMonths : Nat → Int → Nat → ArchiveM (List AdminAuditArchive)
  | 0, _, _ => pure []
  | months + 1, year, month => do
      let outcome ← Program.attempt (adminArchiveAuditLog year month)
      match outcome with
      | .error .crashed => Program.fail .crashed
      | _ => do
          let written ← archiveMonths months (nextMonth year month).1 (nextMonth year month).2
          match outcome with
          | .ok (some archive) => pure (archive :: written)
          | _ => pure written

def adminArchiveDueAuditMonths (beforeYear : Int) (beforeMonth : Nat) :
    ArchiveM (List AdminAuditArchive) := do
  let oldest ← db AuditStore.oldestMonth
  match oldest with
  | none => pure []
  | some (year, month) =>
      archiveMonths ((beforeYear - year) * 12 + (beforeMonth - month)).toNat year month

end Archiver
end SupplyDrop.Host
