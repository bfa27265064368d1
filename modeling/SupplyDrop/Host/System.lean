import Mathlib
import SupplyDrop.Host.Process
import SupplyDrop.Host.Web

namespace SupplyDrop.Host
open Library Store

/-- What the transports and the web admin ask of the host, one at a time, and the time that passes in
between with the statements to fail next. -/
inductive Input where
  | connect (transport : String)
  | disconnect (session : SessionId)
  | command (session : SessionId) (cmd : Command)
  | restoreNode (session : SessionId) (pubkey : PublicKey) (ttlDays : Nat)
  | bindNode (session : SessionId) (pubkey : PublicKey)
  | unbindNode (pubkey : PublicKey)
  | request (username : String) (request : WebRequest)
  | elapse (now : Timestamp) (clock : Instant) (faults : List (Option String))

def BbsHost.elapse (h : BbsHost) (now : Timestamp) (clock : Instant)
    (faults : List (Option String)) : BbsHost :=
  { h with clock := clock, store := { h.store with now := now, faults := faults } }

def deliver (h : BbsHost) : Input → BbsHost
  | .connect transport => (createSession transport h).2
  | .disconnect session => (endSession session h).2
  | .command session cmd => (processCommand session cmd h).2
  | .restoreNode session pubkey ttlDays => (meshNodeRestore session pubkey ttlDays h).2
  | .bindNode session pubkey => (meshNodeBind session pubkey h).2
  | .unbindNode pubkey => (meshNodeUnbind pubkey h).2
  | .request username request => (serve username request h).2
  | .elapse now clock faults => h.elapse now clock faults

end SupplyDrop.Host
