import Mathlib
import SupplyDrop.Host.Auth

namespace SupplyDrop.Host
open Library Store

/-! ## `resolve_suspension` up to each wait -/

/-- How far a call has come, up to its next statement. -/
inductive Resolving where
  -- before the clock is read
  | start (user : User)
  -- before `end_expired_suspension`
  | ending (user : User) (now : Timestamp)
  -- before the row is read again
  | rereading (id : UserId) (now : Timestamp)
  | done (result : Except HostError LoginSuspensionCheck)
deriving DecidableEq

namespace Resolving

def failed (e : StoreError) : Resolving := .done (.error (.storage e.display))

def next : Resolving → Storage → Resolving × Storage
  | .start user, s =>
      match user.suspendedUntil with
      | none => (.done (.ok .permanentlyBanned), s)
      | some until_ =>
          if until_ ≤ s.now then (.ending user s.now, s)
          else (.done (.ok (.suspended (suspensionDaysRemaining until_ s.now))), s)
  | .ending user now, s =>
      match UserStore.endExpiredSuspension user.id now s with
      | (.ok true, s') => (.done (.ok (.allowed (User.reactivated user))), s')
      | (.ok false, s') => (.rereading user.id now, s')
      | (.error e, s') => (failed e, s')
  | .rereading id now, s =>
      match UserStore.getById id s with
      | (.ok fresh, s') => (.done (.ok (standing now fresh)), s')
      | (.error e, s') => (failed e, s')
  | .done result, s => (.done result, s)

end Resolving
end SupplyDrop.Host
