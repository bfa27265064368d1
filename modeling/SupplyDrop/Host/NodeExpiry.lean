import Mathlib
import SupplyDrop.Host.Format
import SupplyDrop.Store.Credentials

namespace SupplyDrop.Store.NodeCredentialStore
open Library Host

/-! ## SQLite's clock -/

/-- The milliseconds from the first Julian day to the epoch, and to the end of the year 9999. -/
def julianEpochMillis : Int := 210866760000000

def lastJulianMillis : Int := 464269060799999

/-- `datetime`, which is `NULL` outside of the years that SQLite counts. -/
def sqliteDatetime (julian : Int) : Option String :=
  if 0 ≤ julian ∧ julian ≤ lastJulianMillis then
    let seconds := (julian - julianEpochMillis) / 1000
    let days := seconds / Calendar.secondsPerDay
    let clock := seconds % Calendar.secondsPerDay
    let sign := if Calendar.year days < 0 then "-" else ""
    let two := fun n => Text.zeroPadded 2 n
    some (sign ++ Text.zeroPadded 4 (Calendar.year days).natAbs ++ "-" ++
      two (Calendar.month days) ++ "-" ++ two (Calendar.dayOfMonth days) ++ " " ++
      two (clock / 3600) ++ ":" ++ two (clock / 60 % 60) ++ ":" ++ two (clock % 60))
  else none

example : sqliteDatetime (946684800500 + julianEpochMillis) = some "2000-01-01 00:00:00" := by
  decide +kernel

/-- `'now', '-N days'`, in milliseconds from the first Julian day. -/
def julianAgo (now : Timestamp) (ttlDays : Nat) : Int :=
  now / 1000000 + julianEpochMillis - ttlDays * millisPerDay

-- a comparison with `NULL` selects no row
def notBefore (stored : String) (bound : Option String) : Bool :=
  bound.any fun b => decide (b ≤ stored)

/-- The statement of `lookup` as SQLite runs it, over the texts. -/
def lookupText (pubkey : PublicKey) (ttlDays : Nat) : StoreM (Option UserId) := do
  let now ← Program.gets fun s => s.now
  query fun db => ((db.nodeCredentials pubkey).filter fun row =>
    notBefore (toRfc3339 row.lastAuth) (sqliteDatetime (julianAgo now ttlDays))).map (·.userId)

end SupplyDrop.Store.NodeCredentialStore
