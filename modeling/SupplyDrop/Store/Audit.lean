import Mathlib
import SupplyDrop.Store.Database

namespace SupplyDrop.Store
open Library

structure AuditEntry extends AuditRow where
  id : Int
deriving DecidableEq

def auditEntry (r : Int × AuditRow) : AuditEntry := { r.2 with id := r.1 }

namespace AuditTime

/-- `created_at < 'YYYY-MM-01T00:00:00Z'`. -/
def beforeMonth (t : AuditTime) (year : Int) (month : Nat) : Bool :=
  t.year < year || (t.year = year && t.month < month)

def inRange (t : AuditTime) (fromYear : Int) (fromMonth : Nat) (untilYear : Int)
    (untilMonth : Nat) : Bool :=
  !t.beforeMonth fromYear fromMonth && t.beforeMonth untilYear untilMonth

def earlier (a b : AuditTime) : Bool :=
  a.beforeMonth b.year b.month || (a.year = b.year && a.month = b.month && a.second ≤ b.second)

end AuditTime

/-- A month of the log, as the half-open range of its first instant and the next month's. -/
structure MonthRange where
  fromYear : Int
  fromMonth : Nat
  untilYear : Int
  untilMonth : Nat

def MonthRange.holds (range : MonthRange) (r : Int × AuditRow) : Bool :=
  r.2.createdAt.inRange range.fromYear range.fromMonth range.untilYear range.untilMonth

namespace AuditStore

def write (actor action : String) (target detail : Option String) : StoreM Unit := do
  let now ← Program.gets fun s => s.now
  let _ ← insertRow (·.auditLog) (fun db auditLog => { db with auditLog }) (fun _ => none)
    { actor, action, target, detail, createdAt := .ofTimestamp now }
  pure ()

def maxIdBefore (year : Int) (month : Nat) : StoreM (Option Int) :=
  query fun db =>
    ((db.auditLog.rows.filter fun r => r.2.createdAt.beforeMonth year month).map (·.1)).max?

def oldestMonth : StoreM (Option (Int × Nat)) :=
  query fun db =>
    ((db.auditLog.rows.map (·.2.createdAt)).mergeSort AuditTime.earlier).head?.map
      fun t => (t.year, t.month)

def pageInRange (after through : Int) (range : MonthRange) (limit : Nat) :
    StoreM (List AuditEntry) :=
  query fun db => ((db.auditLog.rows.filter fun r =>
    after < r.1 && r.1 ≤ through && range.holds r).take limit).map auditEntry

def countInRange (through : Int) (range : MonthRange) : StoreM Nat :=
  query fun db => (db.auditLog.rows.filter fun r => r.1 ≤ through && range.holds r).length

def deleteInRange (through : Int) (range : MonthRange) : StoreM Nat := do
  let removed ← Program.gets fun s =>
    (s.db.auditLog.rows.filter fun r => r.1 ≤ through && range.holds r).length
  execute fun db =>
    { db with auditLog := db.auditLog.filter fun id row => !(id ≤ through && range.holds (id, row)) }
  pure removed

def countThrough (through : Int) : StoreM Nat :=
  query fun db => (db.auditLog.rows.filter fun r => r.1 ≤ through).length

def deleteThrough (through : Int) : StoreM Nat := do
  let removed ← Program.gets fun s => (s.db.auditLog.rows.filter fun r => r.1 ≤ through).length
  execute fun db => { db with auditLog := db.auditLog.filter fun id _ => !(id ≤ through) }
  pure removed

end AuditStore
end SupplyDrop.Store
